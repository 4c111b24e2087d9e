import Mathlib.Algebra.Field.Rat
import Mathlib.Data.Rat.Lemmas
import Mathlib.Tactic.NormNum
import Hedwig.Lib.PyTree
import Hedwig.Validators.HeaderOrder

set_option relaxedAutoImplicit false
set_option autoImplicit false

/-!
# Data that are no JSON values

Data may hold decimals and UUIDs.  The encoder calls `_json_default` for them and encodes what that
returns: a decimal that equals its own truncation becomes an integer, any other decimal a float.
What is read back is therefore the same tree with exact integers, strings and floats in their place.

## Main definitions

* `Hedwig.decimalValue` — the number that a finite decimal stands for.
* `Hedwig.IsDataTree` — a tree with string keys whose leaves are JSON values, decimals and UUIDs.
* `Hedwig.jsonLeaf`, `Hedwig.Unwritable` — what becomes of a leaf, and the leaves that JSON cannot
  write.
* `Hedwig.JSONSchemaValidator.HoldsData` — the data that a payload holds.

## Main results

* `Hedwig.normalise_eq_ok_iff` — which trees are encoded, and to what.
* `Hedwig.JSONSchemaValidator.serialize_normalises` — what `serialize` does to a data tree.

## Design

A leaf is specified by the rational number that it stands for, without the truncation and the
comparison of the code.
-/

namespace Hedwig

/-! ## Decimals -/

/-- The number that the decimal with this coefficient and exponent stands for. -/
def decimalValue (coefficient exponent : ℤ) : ℚ := coefficient * 10 ^ exponent

/-- With an exponent that is not negative it is an integer. -/
lemma decimalValue_of_nonneg {c e : ℤ} (h : 0 ≤ e) :
    decimalValue c e = ((c * 10 ^ e.toNat : ℤ) : ℚ) := by
  lift e to ℕ using h
  simp [decimalValue]

/-- With a negative exponent it is a quotient. -/
lemma decimalValue_of_neg {c e : ℤ} (h : ¬ 0 ≤ e) :
    decimalValue c e = c / ((10 ^ (-e).toNat : ℤ) : ℚ) := by
  obtain ⟨k, rfl⟩ : ∃ k : ℕ, e = -k := ⟨(-e).toNat, by omega⟩
  simp [decimalValue, div_eq_mul_inv]

/-- **The comparison** of an integer with a decimal is exact. -/
lemma eqDecimal_iff {i c e : ℤ} : eqDecimal i c e = true ↔ (i : ℚ) = decimalValue c e := by
  rw [eqDecimal]
  split_ifs with h
  · rw [decimalValue_of_nonneg h, decide_eq_true_eq, Int.cast_inj]
  · have hne : ((10 ^ (-e).toNat : ℤ) : ℚ) ≠ 0 := by simp
    rw [decimalValue_of_neg h, decide_eq_true_eq, eq_div_iff hne, ← Int.cast_mul, Int.cast_inj]

/-- **The truncation** of a decimal that is an integer is this integer. -/
lemma decimalToInt_of_eq {n c e : ℤ} (h : (n : ℚ) = decimalValue c e) : decimalToInt c e = n := by
  rw [decimalToInt]
  split_ifs with he
  · rw [decimalValue_of_nonneg he, Int.cast_inj] at h
    exact h.symm
  · have hne : (10 : ℤ) ^ (-e).toNat ≠ 0 := by simp
    rw [decimalValue_of_neg he, eq_div_iff (Int.cast_ne_zero.mpr hne), ← Int.cast_mul,
      Int.cast_inj] at h
    rw [← h, Int.mul_tdiv_cancel _ hne]

/-! ## Data trees -/

/-- A leaf of a data tree: a JSON value or any float, a decimal or a UUID. -/
def IsDataLeaf : PyObj → Prop
  | .none | .bool _ | .int _ | .float _ | .str _ | .decimal _ | .uuid _ => True
  | .list _ | .dict _ | .other _ => False

/-- A tree with string keys whose leaves are of these kinds. -/
structure IsDataTree (tree : PyObj) : Prop where
  keys : tree.StrKeyed
  leaves : ∀ leaf ∈ tree.leaves, IsDataLeaf leaf

/-- What becomes of a leaf: the integer that a decimal stands for, the float conversion of any other
finite decimal, the string of a UUID, and otherwise the leaf. -/
def jsonLeaf (floatOfDecimal : ℤ → ℤ → String) : PyObj → PyObj
  | .decimal (.finite coefficient exponent) =>
    let value := decimalValue coefficient exponent
    if value.den = 1 then .int value.num else .float (floatOfDecimal coefficient exponent)
  | .uuid text => .str text
  | leaf => leaf

/-- A leaf that JSON cannot write: it is NaN or infinite, or a decimal that is no integer and whose
float conversion is. -/
def Unwritable (floatOfDecimal : ℤ → ℤ → String) : PyObj → Prop
  | .float text => PyObj.nonFinite text = true
  | .decimal (.finite coefficient exponent) =>
    (decimalValue coefficient exponent).den ≠ 1 ∧
      PyObj.nonFinite (floatOfDecimal coefficient exponent) = true
  | .decimal (.infinity _) | .decimal .nan => True
  | _ => False

section Leaves

variable {json : JsonLib} {leaf leaf' : PyObj}

/-- A decimal that stands for an integer becomes this integer. -/
lemma jsonLeaf_of_eq {floatOfDecimal : ℤ → ℤ → String} {n c e : ℤ}
    (h : (n : ℚ) = decimalValue c e) :
    jsonLeaf floatOfDecimal (.decimal (.finite c e)) = .int n := by
  simp [jsonLeaf, ← h]

/-- The default tells the decimals that are integers from the others. -/
lemma jsonDefault_decimal (c e : ℤ) :
    jsonDefault json (.decimal (.finite c e)) =
      .ok (jsonLeaf json.floatOfDecimal (.decimal (.finite c e))) := by
  simp only [jsonDefault, jsonLeaf]
  by_cases hden : (decimalValue c e).den = 1
  · have hnum := (Rat.den_eq_one_iff _).mp hden
    rw [decimalToInt_of_eq hnum, if_pos (eqDecimal_iff.mpr hnum), if_pos hden]
  · have hne : ¬ eqDecimal (decimalToInt c e) c e = true := by
      rw [eqDecimal_iff]
      intro heq
      exact hden (heq ▸ Rat.den_intCast _)
    rw [if_neg hne, if_neg hden]

/-- A float is encoded if it is finite. -/
lemma finiteFloat_eq_ok_iff {text : String} :
    finiteFloat text = .ok leaf' ↔ PyObj.nonFinite text = false ∧ leaf' = .float text := by
  rw [finiteFloat]
  split_ifs with h <;> simp [h, eq_comm]

/-- **A leaf** is encoded unless it is unwritable, and as the value that it becomes. -/
lemma normalise_leaf_eq_ok_iff (hleaf : IsDataLeaf leaf) :
    normalise json leaf = .ok leaf' ↔
      ¬ Unwritable json.floatOfDecimal leaf ∧ leaf' = jsonLeaf json.floatOfDecimal leaf := by
  cases leaf with
  | none | bool | int | str => simp [normalise, Unwritable, jsonLeaf, eq_comm]
  | float text => simp [normalise, finiteFloat_eq_ok_iff, Unwritable, jsonLeaf]
  | uuid text => simp [normalise, encodeDefault, jsonDefault, Unwritable, jsonLeaf, bind,
      Except.bind, eq_comm]
  | decimal d =>
    rw [normalise]
    cases d with
    | infinity | nan => simp [encodeDefault, jsonDefault, Unwritable, bind, Except.bind]
    | finite c e =>
      rw [encodeDefault, jsonDefault_decimal]
      simp only [jsonLeaf, Unwritable]
      by_cases hden : (decimalValue c e).den = 1
      · simp only [hden, bind, Except.bind, if_true, Except.ok.injEq, ne_eq, not_true_eq_false,
          false_and, not_false_eq_true, true_and]
        exact eq_comm
      · simp [hden, bind, Except.bind, finiteFloat_eq_ok_iff]
  | list | dict | other => exact hleaf.elim

/-- A leaf of any other class is not encoded. -/
lemma isDataLeaf_of_normalise (hleaf : leaf.IsLeaf) (h : normalise json leaf = .ok leaf') :
    IsDataLeaf leaf := by
  cases leaf with
  | list | dict => exact hleaf.elim
  | other => cases h
  | _ => trivial

/-- What a leaf becomes is a JSON value, unless the leaf is unwritable. -/
lemma isJson_jsonLeaf {floatOfDecimal : ℤ → ℤ → String} (hleaf : IsDataLeaf leaf)
    (h : ¬ Unwritable floatOfDecimal leaf) : (jsonLeaf floatOfDecimal leaf).IsJson := by
  cases leaf with
  | none | bool | int | str | uuid => trivial
  | float text => exact Bool.eq_false_iff.mpr h
  | decimal d =>
    cases d with
    | infinity | nan => exact (h trivial).elim
    | finite c e =>
      simp only [jsonLeaf]
      split_ifs with hden
      · trivial
      · exact Bool.eq_false_iff.mpr fun hinfinite => h ⟨hden, hinfinite⟩
  | list | dict | other => exact hleaf.elim

end Leaves

/-! ## Encoding a tree -/

section Trees

variable {json : JsonLib}

mutual

/-- With string keys the encoder keeps the tree and encodes the leaves. -/
lemma normalise_eq_traverseLeaves : ∀ tree : PyObj, tree.StrKeyed →
    normalise json tree = tree.traverseLeaves (normalise json)
  | .list items, h => by
    rw [normalise, PyObj.traverseLeaves, normaliseList_eq_traverseLeavesList items h]
  | .dict fields, h => by
    rw [normalise, PyObj.traverseLeaves, normaliseFields_eq_traverseLeavesFields fields h.2]
  | .none, _ | .bool _, _ | .int _, _ | .float _, _ | .str _, _ | .decimal _, _ | .uuid _, _
  | .other _, _ => rfl

/-- `normalise_eq_traverseLeaves` for every item. -/
lemma normaliseList_eq_traverseLeavesList : ∀ items : List PyObj, PyObj.StrKeyedList items →
    normaliseList json items = PyObj.traverseLeavesList (normalise json) items
  | [], _ => rfl
  | x :: xs, h => by
    rw [normaliseList, PyObj.traverseLeavesList, normalise_eq_traverseLeaves x h.1,
      normaliseList_eq_traverseLeavesList xs h.2]

/-- `normalise_eq_traverseLeaves` for every value. -/
lemma normaliseFields_eq_traverseLeavesFields : ∀ fields : List (PyKey × PyObj),
    PyObj.StrKeyedFields fields →
    normaliseFields json fields = PyObj.traverseLeavesFields (normalise json) fields
  | [], _ => rfl
  | (.str k, v) :: rest, h => by
    rw [normaliseFields, PyObj.traverseLeavesFields, normalise_eq_traverseLeaves v h.2.1,
      normaliseFields_eq_traverseLeavesFields rest h.2.2]
  | (.bytes _, _) :: _, h | (.other _, _) :: _, h => by
    obtain ⟨⟨_, hk⟩, -⟩ := h
    cases hk

end

/-- **A data tree** is encoded exactly if none of its leaves is unwritable, and as the same tree
with the values that its leaves become.

**Proof sketch.**  The encoder replaces the leaves of the tree, and `PyObj.traverseLeaves_eq_ok_iff`
leaves only what it does at one leaf, which is `normalise_leaf_eq_ok_iff`. -/
lemma normalise_eq_ok_iff {tree document : PyObj} (h : IsDataTree tree) :
    normalise json tree = .ok document ↔
      (∀ leaf ∈ tree.leaves, ¬ Unwritable json.floatOfDecimal leaf) ∧
        document = tree.mapLeaves (jsonLeaf json.floatOfDecimal) := by
  have hleafwise : tree.Leafwise (normalise json) (jsonLeaf json.floatOfDecimal) := by
    refine PyObj.traverseLeaves_eq_ok_iff (fun leaf hleaf leaf' hleaf' => ?_) tree
    exact ((normalise_leaf_eq_ok_iff (isDataLeaf_of_normalise hleaf hleaf')).mp hleaf').2
  rw [normalise_eq_traverseLeaves tree h.keys, hleafwise]
  refine and_congr_left fun _ => forall₂_congr fun leaf hmem => ?_
  simp [normalise_leaf_eq_ok_iff (h.leaves leaf hmem)]

/-- What is encoded is a JSON value. -/
lemma isJson_of_normalise {tree document : PyObj} (h : IsDataTree tree)
    (hnormalise : normalise json tree = .ok document) : document.IsJson := by
  obtain ⟨hleaves, rfl⟩ := (normalise_eq_ok_iff h).mp hnormalise
  exact PyObj.isJson_mapLeaves h.keys fun leaf hmem =>
    isJson_jsonLeaf (h.leaves leaf hmem) (hleaves leaf hmem)

end Trees

/-! ## Serializing a message -/

namespace JSONSchemaValidator

variable (v : JSONSchemaValidator) {π : Type}

/-- The payload holds these data: it is parsed to them, or to a container with them. -/
def HoldsData (payload : Payload) (data : PyObj) : Prop :=
  if v.useTransportMessageAttributes = true then
    ∃ text, payload = .str text ∧ v.json.loads text = .ok data
  else ∃ text fields, payload = .str text ∧ v.json.loads text = .ok (.dict fields) ∧
    PyObj.field? fields "data" = some data

variable {v}

/-- What is read back of a container is a container of what is read back of the data. -/
lemma exists_field?_lastWins_container (metaAttrs : MetaAttributes) {data : PyObj}
    (hdata : data.IsJson) :
    ∃ fields, (container metaAttrs data).lastWins = .dict fields ∧
      PyObj.field? fields "data" = some data := by
  refine ⟨_, PyObj.lastWins_dict (by simp), ?_⟩
  simp [PyObj.lastWinsFields, PyObj.field?, PyObj.lastWins_of_isJson data hdata]

/-- The payload of a message holds what the encoder makes of the data. -/
lemma holdsData_of_encodePayload {metaAttrs : MetaAttributes} {data : PyObj} {payload : Payload}
    {attributes : Attributes} (hdata : IsDataTree data)
    (h : v.encodePayload metaAttrs data v.useTransportMessageAttributes =
      .ok (payload, attributes)) :
    ∃ document, normalise v.json data = .ok document ∧
      (v.json.ReadsBack → v.HoldsData payload document) := by
  simp only [HoldsData]
  cases hmode : v.useTransportMessageAttributes with
  | false =>
    rw [hmode] at h
    obtain ⟨text, hdumps, rfl, -⟩ := encodeContainer_eq_ok.mp h
    obtain ⟨document, hnormalise, hencode⟩ := bind_eq_ok.mp hdumps
    obtain ⟨schema, id, timestamp, publisher, headers, data', -, -, -, -, -, hdata', rfl⟩ :=
      normalise_container_eq_ok.mp hnormalise
    refine ⟨data', hdata', fun hjson => ?_⟩
    have hloads := hjson.loads _ _ (isDocument_normalise _ _ hnormalise) hencode
    obtain ⟨fields, hfields, hfield⟩ :=
      exists_field?_lastWins_container _ (isJson_of_normalise hdata hdata')
    rw [if_neg Bool.false_ne_true]
    exact ⟨text, fields, rfl, hfields ▸ hloads, hfield⟩
  | true =>
    rw [hmode] at h
    obtain ⟨text, -, hdumps, rfl⟩ := encodeTransport_eq_ok.mp h
    obtain ⟨document, hnormalise, hencode⟩ := bind_eq_ok.mp hdumps
    refine ⟨document, hnormalise, fun hjson => ?_⟩
    have hloads := hjson.loads _ _ (isDocument_normalise _ _ hnormalise) hencode
    rw [PyObj.lastWins_of_isJson _ (isJson_of_normalise hdata hnormalise)] at hloads
    rw [if_pos rfl]
    exact ⟨text, rfl, hloads⟩

/-- **Normalisation of data.**  If a message whose data are a data tree is serialized, the payload
holds the same tree with the integer of every decimal that is one, the float of any other decimal
and the string of every UUID.  If a leaf of the tree is NaN or infinite, or a decimal that is no
integer and whose float conversion is infinite, `serialize` raises.

**Proof sketch.**  A message that is serialized has its data encoded, in both modes, so by
`normalise_eq_ok_iff` none of its leaves is unwritable, and the document that the payload holds has
the tree of what the leaves become. -/
theorem serialize_normalises (v : JSONSchemaValidator) {π : Type} (m : Message PyObj π)
    (hdata : IsDataTree m.data) :
    (v.json.ReadsBack → ∀ (payload : Payload) (attributes : Attributes),
      v.toBase.serialize m = .ok (payload, attributes) →
      v.HoldsData payload (m.data.mapLeaves (jsonLeaf v.json.floatOfDecimal))) ∧
    ((∃ leaf ∈ m.data.leaves, Unwritable v.json.floatOfDecimal leaf) →
      ∃ e, v.toBase.serialize m = .error e) := by
  have hserialize : ∀ payload attributes, v.toBase.serialize m = .ok (payload, attributes) →
      (∀ leaf ∈ m.data.leaves, ¬ Unwritable v.json.floatOfDecimal leaf) ∧
        (v.json.ReadsBack →
          v.HoldsData payload (m.data.mapLeaves (jsonLeaf v.json.floatOfDecimal))) := by
    intro payload attributes h
    obtain ⟨-, -, schema, -, hencode, -⟩ := v.toBase.serializeMode_eq_ok h
    obtain ⟨document, hnormalise, hholds⟩ := holdsData_of_encodePayload hdata hencode
    obtain ⟨hleaves, rfl⟩ := (normalise_eq_ok_iff hdata).mp hnormalise
    exact ⟨hleaves, hholds⟩
  constructor
  · intro hjson payload attributes h
    exact (hserialize payload attributes h).2 hjson
  · rintro ⟨leaf, hmem, hunwritable⟩
    cases h : v.toBase.serialize m with
    | error e => exact ⟨e, rfl⟩
    | ok result =>
      obtain ⟨payload, attributes⟩ := result
      exact ((hserialize payload attributes h).1 leaf hmem hunwritable).elim

end JSONSchemaValidator

/-! ## Sample data -/

/-- Two decimals, of which one is an integer, and a UUID. -/
def amounts : PyObj :=
  .dict [(.str "amounts", .list [.decimal (.finite 12 3), .decimal (.finite 150 (-2)),
    .uuid "6cac5588-24cc-4b4f-bbf9-7dc0ce93f96e"])]

/-- What is read back of them. -/
def amountsDocument : PyObj :=
  .dict [(.str "amounts", .list [.int 12000, .float "1.5",
    .str "6cac5588-24cc-4b4f-bbf9-7dc0ce93f96e"])]

/-- Their text. -/
def amountsText : String :=
  "\x7b\"amounts\":[12000,1.5,\"6cac5588-24cc-4b4f-bbf9-7dc0ce93f96e\"]\x7d"

/-- A JSON codec that knows this text. -/
def amountsLib : JsonLib where
  encode
    | .dict [(.str "amounts", .list [.int 12000, .float "1.5",
        .str "6cac5588-24cc-4b4f-bbf9-7dc0ce93f96e"])] => .ok amountsText
    | _ => .error (.new .recursionError "")
  loads s := if s = amountsText then .ok amountsDocument else .error (.new .jsonDecodeError "")
  floatOfDecimal c e := if c = 150 ∧ e = -2 then "1.5" else "0.0"
  otherKey _ := .error (.new .typeError "")

/-- A validator with this codec, in transport mode. -/
def amountsValidator : JSONSchemaValidator := { emptyDocumentValidator with json := amountsLib }

/-- A dictionary with nothing but a list has one order only. -/
lemma eq_of_reordered {k : PyKey} {items : List PyObj} {o : PyObj}
    (h : (PyObj.dict [(k, .list items)]).Reordered o) : o = .dict [(k, .list items)] := by
  generalize hdict : PyObj.dict [(k, .list items)] = o' at h
  cases h with
  | fields hperm =>
    obtain rfl := PyObj.dict.inj hdict
    rw [List.perm_singleton.mp hperm.symm]
  | value before k' after hvalue =>
    have hfields := PyObj.dict.inj hdict
    cases before with
    | nil =>
      obtain ⟨hitem, -⟩ := List.cons.inj hfields
      obtain ⟨-, rfl⟩ := Prod.mk.inj hitem
      cases hvalue
    | cons kv rest => simp at hfields

/-- The codec keeps its promise. -/
lemma readsBack_amountsLib : amountsLib.ReadsBack where
  loads o s ho h := by
    simp only [amountsLib] at h
    split at h
    · rw [← Except.ok.inj h]
      rfl
    · cases h
  reordered o o' s hreordered h := by
    simp only [amountsLib] at h
    split at h
    · rw [eq_of_reordered hreordered]
      exact ⟨_, rfl⟩
    · cases h

/-- The samples are data trees. -/
lemma isDataTree_amounts : IsDataTree amounts := by
  constructor
  · simp [amounts, PyObj.StrKeyed, PyObj.StrKeyedFields, PyObj.StrKeyedList]
  · simp [amounts, PyObj.leaves, PyObj.leavesList, PyObj.leavesFields, IsDataLeaf]

/-- What becomes of the amounts. -/
lemma mapLeaves_amounts :
    amounts.mapLeaves (jsonLeaf amountsLib.floatOfDecimal) = amountsDocument := by
  have hint : ((12000 : ℤ) : ℚ) = decimalValue 12 3 := by norm_num [decimalValue]
  have hfraction : (decimalValue 150 (-2)).den ≠ 1 := by
    have hvalue : decimalValue 150 (-2) = 3 / 2 := by norm_num [decimalValue]
    rw [hvalue]
    decide +kernel
  simp only [amounts, PyObj.mapLeaves, PyObj.mapLeavesFields, PyObj.mapLeavesList,
    jsonLeaf_of_eq hint]
  simp only [jsonLeaf, if_neg hfraction]
  rfl

/-- The theorem at a message with these amounts, and at one with a decimal that is NaN. -/
theorem JSONSchemaValidator.serialize_normalises_sample :
    (∃ payload attributes,
      amountsValidator.toBase.serialize (sampleMessage amounts "trip_created") =
        .ok (payload, attributes) ∧
      amountsValidator.HoldsData payload amountsDocument) ∧
    ∃ e, amountsValidator.toBase.serialize
      (sampleMessage (.dict [(.str "amounts", .decimal .nan)]) "trip_created") = .error e := by
  constructor
  · cases h : amountsValidator.toBase.serialize (sampleMessage amounts "trip_created") with
    | error e =>
      have hok : (amountsValidator.toBase.serialize
        (sampleMessage amounts "trip_created")).isOk = true := by decide +kernel
      rw [h] at hok
      cases hok
    | ok result =>
      obtain ⟨payload, attributes⟩ := result
      have hholds := (serialize_normalises amountsValidator (sampleMessage amounts "trip_created")
        isDataTree_amounts).1 readsBack_amountsLib payload attributes h
      exact ⟨payload, attributes, rfl, mapLeaves_amounts ▸ hholds⟩
  · refine (serialize_normalises amountsValidator _ ⟨?_, ?_⟩).2 ⟨.decimal .nan, ?_, trivial⟩
    · simp [sampleMessage, PyObj.StrKeyed, PyObj.StrKeyedFields]
    · simp [sampleMessage, PyObj.leaves, PyObj.leavesFields, IsDataLeaf]
    · simp [sampleMessage, PyObj.leaves, PyObj.leavesFields]

end Hedwig
