import Hedwig.Lib.PyDict
import Hedwig.Lib.PyObject

set_option relaxedAutoImplicit false
set_option autoImplicit false

/-!
# JSON documents

What an encoder prints and a decoder builds.  A document may have a name twice in an object, for
instance when it comes from a dictionary with the keys `1` and `"1"`; a decoder keeps the last
value.  The order in which the items of an object are written does not matter.

## Main definitions

* `PyObj.IsDocument` — a value that can be printed.
* `PyObj.lastWins` — the value that is read back.
* `PyObj.Reordered` — a value with the items of one dictionary in another order.

## Main results

* `PyObj.lastWins_of_isJson` — a value without repeated keys is read back as it is.
-/

namespace PyObj

mutual

/-- The value has string keys, finite floats and no leaf of another class. -/
def IsDocument : PyObj → Prop
  | .none | .bool _ | .int _ | .str _ => True
  | .float text => nonFinite text = false
  | .list items => IsDocumentList items
  | .dict fields => IsDocumentFields fields
  | .decimal _ | .uuid _ | .other _ => False

/-- `IsDocument` for every item. -/
def IsDocumentList : List PyObj → Prop
  | [] => True
  | x :: xs => IsDocument x ∧ IsDocumentList xs

/-- String keys, and `IsDocument` for every value. -/
def IsDocumentFields : List (PyKey × PyObj) → Prop
  | [] => True
  | (k, v) :: rest => (∃ s, k = .str s) ∧ IsDocument v ∧ IsDocumentFields rest

end

mutual

/-- Every object becomes a dictionary, in which the last value of a name replaces the others. -/
def lastWins : PyObj → PyObj
  | .list items => .list (lastWinsList items)
  | .dict fields => .dict (PyDict.ofList (lastWinsFields fields)).items
  | o => o

/-- `lastWins` for every item. -/
def lastWinsList : List PyObj → List PyObj
  | [] => []
  | x :: xs => lastWins x :: lastWinsList xs

/-- `lastWins` for every value. -/
def lastWinsFields : List (PyKey × PyObj) → List (PyKey × PyObj)
  | [] => []
  | (k, v) :: rest => (k, lastWins v) :: lastWinsFields rest

end

/-- One dictionary in the value has its items in another order. -/
inductive Reordered : PyObj → PyObj → Prop
  | fields {fields fields' : List (PyKey × PyObj)} (h : fields.Perm fields') :
      Reordered (.dict fields) (.dict fields')
  | value (before : List (PyKey × PyObj)) (k : PyKey) {v v' : PyObj}
      (after : List (PyKey × PyObj)) (h : Reordered v v') :
      Reordered (.dict (before ++ (k, v) :: after)) (.dict (before ++ (k, v') :: after))

/-- The names stay. -/
lemma map_fst_lastWinsFields (fields : List (PyKey × PyObj)) :
    (lastWinsFields fields).map Prod.fst = fields.map Prod.fst := by
  induction fields with
  | nil => rfl
  | cons kv rest ih =>
    rw [lastWinsFields, List.map_cons, List.map_cons, ih]

/-- An object without repeated names keeps its items. -/
lemma lastWins_dict {fields : List (PyKey × PyObj)} (h : (fields.map Prod.fst).Nodup) :
    lastWins (.dict fields) = .dict (lastWinsFields fields) := by
  rw [lastWins, PyDict.items_ofList (by rwa [map_fst_lastWinsFields])]

mutual

/-- A value without repeated keys is read back as it is. -/
lemma lastWins_of_isJson : ∀ o : PyObj, o.IsJson → o.lastWins = o
  | .none, _ | .bool _, _ | .int _, _ | .str _, _ | .float _, _ => rfl
  | .list items, h => congrArg PyObj.list (lastWinsList_of_isJson items h)
  | .dict fields, h => by
    rw [lastWins_dict h.1, lastWinsFields_of_isJson fields h.2]
  | .decimal _, h | .uuid _, h | .other _, h => h.elim

/-- `lastWins_of_isJson` for every item. -/
lemma lastWinsList_of_isJson : ∀ items : List PyObj, IsJsonList items →
    lastWinsList items = items
  | [], _ => rfl
  | x :: xs, h => by
    rw [lastWinsList, lastWins_of_isJson x h.1, lastWinsList_of_isJson xs h.2]

/-- `lastWins_of_isJson` for every value. -/
lemma lastWinsFields_of_isJson : ∀ fields : List (PyKey × PyObj), IsJsonFields fields →
    lastWinsFields fields = fields
  | [], _ => rfl
  | (k, v) :: rest, h => by
    rw [lastWinsFields, lastWins_of_isJson v h.2.1, lastWinsFields_of_isJson rest h.2.2]

end

end PyObj
