import Mathlib.Data.List.Flatten
import Hedwig.Lib.PyObject

set_option relaxedAutoImplicit false
set_option autoImplicit false

/-!
# Python values as trees

Lists and dictionaries are the inner nodes of a value, and everything else is a leaf.  An encoder
that keeps the nodes and replaces the leaves, or fails at one of them, is described by what it does
to the leaves alone.

## Main definitions

* `PyObj.leaves` — the leaves of a value, from left to right.
* `PyObj.mapLeaves`, `PyObj.traverseLeaves` — the same tree with other leaves.
* `PyObj.StrKeyed` — every dictionary has string keys, and no key twice.

## Main results

* `PyObj.treeInduction` — induction over the leaves, lists and dictionaries of a value.
* `PyObj.traverseLeaves_eq_ok_iff` — replacing the leaves succeeds exactly if it does at each leaf.
* `PyObj.isJson_mapLeaves` — which trees become JSON values.
-/

namespace PyObj

/-- The value is no list and no dictionary. -/
def IsLeaf : PyObj → Prop
  | .list _ | .dict _ => False
  | _ => True

mutual

/-- The leaves of a value, from left to right. -/
def leaves : PyObj → List PyObj
  | .list items => leavesList items
  | .dict fields => leavesFields fields
  | o => [o]

/-- The leaves of the items. -/
def leavesList : List PyObj → List PyObj
  | [] => []
  | x :: xs => leaves x ++ leavesList xs

/-- The leaves of the values. -/
def leavesFields : List (PyKey × PyObj) → List PyObj
  | [] => []
  | (_, v) :: rest => leaves v ++ leavesFields rest

end

mutual

/-- The same tree with other leaves. -/
def mapLeaves (f : PyObj → PyObj) : PyObj → PyObj
  | .list items => .list (mapLeavesList f items)
  | .dict fields => .dict (mapLeavesFields f fields)
  | o => f o

/-- `mapLeaves` for every item. -/
def mapLeavesList (f : PyObj → PyObj) : List PyObj → List PyObj
  | [] => []
  | x :: xs => mapLeaves f x :: mapLeavesList f xs

/-- `mapLeaves` for every value. -/
def mapLeavesFields (f : PyObj → PyObj) : List (PyKey × PyObj) → List (PyKey × PyObj)
  | [] => []
  | (k, v) :: rest => (k, mapLeaves f v) :: mapLeavesFields f rest

end

mutual

/-- The same tree with other leaves, unless one of them cannot be replaced. -/
def traverseLeaves {ε : Type} (f : PyObj → Except ε PyObj) : PyObj → Except ε PyObj
  | .list items => (traverseLeavesList f items).map .list
  | .dict fields => (traverseLeavesFields f fields).map .dict
  | o => f o

/-- `traverseLeaves` for every item. -/
def traverseLeavesList {ε : Type} (f : PyObj → Except ε PyObj) :
    List PyObj → Except ε (List PyObj)
  | [] => .ok []
  | x :: xs => do
    let x ← traverseLeaves f x
    let xs ← traverseLeavesList f xs
    return x :: xs

/-- `traverseLeaves` for every value. -/
def traverseLeavesFields {ε : Type} (f : PyObj → Except ε PyObj) :
    List (PyKey × PyObj) → Except ε (List (PyKey × PyObj))
  | [] => .ok []
  | (k, v) :: rest => do
    let v ← traverseLeaves f v
    let rest ← traverseLeavesFields f rest
    return (k, v) :: rest

end

mutual

/-- Every dictionary in the value has string keys, and no key twice. -/
def StrKeyed : PyObj → Prop
  | .list items => StrKeyedList items
  | .dict fields => (fields.map Prod.fst).Nodup ∧ StrKeyedFields fields
  | _ => True

/-- `StrKeyed` for every item. -/
def StrKeyedList : List PyObj → Prop
  | [] => True
  | x :: xs => StrKeyed x ∧ StrKeyedList xs

/-- String keys, and `StrKeyed` for every value. -/
def StrKeyedFields : List (PyKey × PyObj) → Prop
  | [] => True
  | (k, v) :: rest => (∃ s, k = .str s) ∧ StrKeyed v ∧ StrKeyedFields rest

end

/-- **Induction over a value**: over its leaves, its lists and its dictionaries. -/
@[elab_as_elim]
theorem treeInduction {motive : PyObj → Prop} (leaf : ∀ o : PyObj, o.IsLeaf → motive o)
    (list : ∀ items : List PyObj, (∀ o ∈ items, motive o) → motive (.list items))
    (dict : ∀ fields : List (PyKey × PyObj), (∀ kv ∈ fields, motive kv.2) → motive (.dict fields)) :
    ∀ o : PyObj, motive o
  | .list items => list items fun o _ => treeInduction leaf list dict o
  | .dict fields => dict fields fun kv _ => treeInduction leaf list dict kv.2
  | .none | .bool _ | .int _ | .float _ | .str _ | .decimal _ | .uuid _ | .other _ =>
    leaf _ trivial
termination_by o => sizeOf o
decreasing_by
  · have := List.sizeOf_lt_of_mem ‹o ∈ items›
    simp only [PyObj.list.sizeOf_spec]
    omega
  · have := List.sizeOf_lt_of_mem ‹kv ∈ fields›
    have : sizeOf kv = 1 + sizeOf kv.1 + sizeOf kv.2 := by cases kv; rfl
    simp only [PyObj.dict.sizeOf_spec]
    omega

/-! ## Leaves -/

/-- A leaf is its only leaf. -/
lemma leaves_of_isLeaf {o : PyObj} (h : o.IsLeaf) : o.leaves = [o] := by
  cases o <;> first | rfl | exact h.elim

/-- A leaf is replaced. -/
lemma mapLeaves_of_isLeaf {f : PyObj → PyObj} {o : PyObj} (h : o.IsLeaf) :
    o.mapLeaves f = f o := by
  cases o <;> first | rfl | exact h.elim

/-- A leaf is replaced, if it can be. -/
lemma traverseLeaves_of_isLeaf {ε : Type} {f : PyObj → Except ε PyObj} {o : PyObj}
    (h : o.IsLeaf) : o.traverseLeaves f = f o := by
  cases o <;> first | rfl | exact h.elim

/-- The leaves of the items are the leaves of each. -/
lemma mem_leavesList {items : List PyObj} {l : PyObj} :
    l ∈ leavesList items ↔ ∃ o ∈ items, l ∈ o.leaves := by
  induction items with
  | nil => simp [leavesList]
  | cons x xs ih => simp [leavesList, ih]

/-- The leaves of the values are the leaves of each. -/
lemma mem_leavesFields {fields : List (PyKey × PyObj)} {l : PyObj} :
    l ∈ leavesFields fields ↔ ∃ kv ∈ fields, l ∈ kv.2.leaves := by
  induction fields with
  | nil => simp [leavesFields]
  | cons kv rest ih =>
    obtain ⟨k, v⟩ := kv
    simp [leavesFields, ih]

/-! ## Replacing the leaves -/

section Traverse

variable {ε : Type} {f : PyObj → Except ε PyObj} {g : PyObj → PyObj}

/-- The items of a list are replaced one after the other. -/
lemma traverseLeavesList_cons_eq_ok {x : PyObj} {xs items : List PyObj} :
    traverseLeavesList f (x :: xs) = .ok items ↔
      ∃ x', x.traverseLeaves f = .ok x' ∧
        ∃ xs', traverseLeavesList f xs = .ok xs' ∧ items = x' :: xs' := by
  rw [traverseLeavesList]
  cases x.traverseLeaves f <;> cases traverseLeavesList f xs <;>
    simp [bind, Except.bind, pure, Except.pure, eq_comm]

/-- The values of a dictionary are replaced one after the other. -/
lemma traverseLeavesFields_cons_eq_ok {k : PyKey} {v : PyObj}
    {rest fields : List (PyKey × PyObj)} :
    traverseLeavesFields f ((k, v) :: rest) = .ok fields ↔
      ∃ v', v.traverseLeaves f = .ok v' ∧
        ∃ rest', traverseLeavesFields f rest = .ok rest' ∧ fields = (k, v') :: rest' := by
  rw [traverseLeavesFields]
  cases v.traverseLeaves f <;> cases traverseLeavesFields f rest <;>
    simp [bind, Except.bind, pure, Except.pure, eq_comm]

/-- A list is replaced by the list of the new items. -/
lemma traverseLeaves_list_eq_ok {items : List PyObj} {o' : PyObj} :
    (list items).traverseLeaves f = .ok o' ↔
      ∃ items', traverseLeavesList f items = .ok items' ∧ o' = .list items' := by
  rw [traverseLeaves]
  cases traverseLeavesList f items <;> simp [Except.map, eq_comm]

/-- A dictionary is replaced by the dictionary of the new values. -/
lemma traverseLeaves_dict_eq_ok {fields : List (PyKey × PyObj)} {o' : PyObj} :
    (dict fields).traverseLeaves f = .ok o' ↔
      ∃ fields', traverseLeavesFields f fields = .ok fields' ∧ o' = .dict fields' := by
  rw [traverseLeaves]
  cases traverseLeavesFields f fields <;> simp [Except.map, eq_comm]

/-- A value can be replaced exactly if each of its leaves can, and is then the same tree with the
leaves that these become. -/
def Leafwise (f : PyObj → Except ε PyObj) (g : PyObj → PyObj) (o : PyObj) : Prop :=
  ∀ o', o.traverseLeaves f = .ok o' ↔ (∀ l ∈ o.leaves, ∃ l', f l = .ok l') ∧ o' = o.mapLeaves g

/-- If each item can be replaced exactly if its leaves can, then so can a list of them. -/
lemma traverseLeavesList_eq_ok_iff {items items' : List PyObj}
    (h : ∀ o ∈ items, o.Leafwise f g) :
    traverseLeavesList f items = .ok items' ↔
      (∀ l ∈ leavesList items, ∃ l', f l = .ok l') ∧ items' = mapLeavesList g items := by
  induction items generalizing items' with
  | nil => simp [traverseLeavesList, leavesList, mapLeavesList, eq_comm]
  | cons x xs ih =>
    obtain ⟨hx, hxs⟩ := List.forall_mem_cons.mp h
    simp only [traverseLeavesList_cons_eq_ok, hx _, ih hxs, leavesList, mapLeavesList,
      List.mem_append, or_imp, forall_and]
    constructor
    · rintro ⟨_, ⟨hleaves, rfl⟩, _, ⟨hrest, rfl⟩, rfl⟩
      exact ⟨⟨hleaves, hrest⟩, rfl⟩
    · rintro ⟨⟨hleaves, hrest⟩, rfl⟩
      exact ⟨_, ⟨hleaves, rfl⟩, _, ⟨hrest, rfl⟩, rfl⟩

/-- `traverseLeavesList_eq_ok_iff` for a dictionary. -/
lemma traverseLeavesFields_eq_ok_iff {fields fields' : List (PyKey × PyObj)}
    (h : ∀ kv ∈ fields, kv.2.Leafwise f g) :
    traverseLeavesFields f fields = .ok fields' ↔
      (∀ l ∈ leavesFields fields, ∃ l', f l = .ok l') ∧ fields' = mapLeavesFields g fields := by
  induction fields generalizing fields' with
  | nil => simp [traverseLeavesFields, leavesFields, mapLeavesFields, eq_comm]
  | cons kv rest ih =>
    obtain ⟨k, v⟩ := kv
    obtain ⟨hv, hrest⟩ := List.forall_mem_cons.mp h
    simp only [traverseLeavesFields_cons_eq_ok, hv _, ih hrest, leavesFields, mapLeavesFields,
      List.mem_append, or_imp, forall_and]
    constructor
    · rintro ⟨_, ⟨hleaves, rfl⟩, _, ⟨hrest, rfl⟩, rfl⟩
      exact ⟨⟨hleaves, hrest⟩, rfl⟩
    · rintro ⟨⟨hleaves, hrest⟩, rfl⟩
      exact ⟨_, ⟨hleaves, rfl⟩, _, ⟨hrest, rfl⟩, rfl⟩

/-- **Replacing the leaves** succeeds exactly if it does at each leaf, and gives the same tree with
what they become: by induction on the tree.

**Proof sketch.**  At a leaf this is what is assumed of `f`.  A list or a dict is traversed item by
item, and each item as the induction hypothesis says. -/
theorem traverseLeaves_eq_ok_iff (hg : ∀ l : PyObj, l.IsLeaf → ∀ l', f l = .ok l' → l' = g l)
    (o : PyObj) : o.Leafwise f g := by
  induction o using treeInduction with
  | leaf o ho =>
    intro o'
    rw [traverseLeaves_of_isLeaf ho, leaves_of_isLeaf ho, mapLeaves_of_isLeaf ho,
      List.forall_mem_singleton]
    constructor
    · intro hf
      exact ⟨⟨o', hf⟩, hg o ho o' hf⟩
    · rintro ⟨⟨l', hl'⟩, rfl⟩
      rw [hl', hg o ho l' hl']
  | list items ih =>
    intro o'
    simp only [traverseLeaves_list_eq_ok, traverseLeavesList_eq_ok_iff ih, leaves, mapLeaves]
    constructor
    · rintro ⟨_, ⟨hleaves, rfl⟩, rfl⟩
      exact ⟨hleaves, rfl⟩
    · rintro ⟨hleaves, rfl⟩
      exact ⟨_, ⟨hleaves, rfl⟩, rfl⟩
  | dict fields ih =>
    intro o'
    simp only [traverseLeaves_dict_eq_ok, traverseLeavesFields_eq_ok_iff ih, leaves, mapLeaves]
    constructor
    · rintro ⟨_, ⟨hleaves, rfl⟩, rfl⟩
      exact ⟨hleaves, rfl⟩
    · rintro ⟨hleaves, rfl⟩
      exact ⟨_, ⟨hleaves, rfl⟩, rfl⟩

end Traverse

/-! ## JSON values -/

/-- `StrKeyedFields` says of each item what it says of the list. -/
lemma strKeyedFields_iff {fields : List (PyKey × PyObj)} :
    StrKeyedFields fields ↔ ∀ kv ∈ fields, (∃ s, kv.1 = .str s) ∧ kv.2.StrKeyed := by
  induction fields with
  | nil => simp [StrKeyedFields]
  | cons kv rest ih =>
    obtain ⟨k, v⟩ := kv
    simp [StrKeyedFields, ih, and_assoc]

/-- `StrKeyedList` says of each item what it says of the list. -/
lemma strKeyedList_iff {items : List PyObj} : StrKeyedList items ↔ ∀ o ∈ items, o.StrKeyed := by
  induction items with
  | nil => simp [StrKeyedList]
  | cons x xs ih => simp [StrKeyedList, ih]

/-- `IsJsonList` says of each item what it says of the list. -/
lemma isJsonList_iff {items : List PyObj} : IsJsonList items ↔ ∀ o ∈ items, o.IsJson := by
  induction items with
  | nil => simp [IsJsonList]
  | cons x xs ih => simp [IsJsonList, ih]

/-- The items of a list with other leaves. -/
lemma mapLeavesList_eq_map (f : PyObj → PyObj) (items : List PyObj) :
    mapLeavesList f items = items.map (mapLeaves f) := by
  induction items with
  | nil => rfl
  | cons x xs ih => rw [mapLeavesList, List.map_cons, ih]

/-- The items of a dictionary with other leaves. -/
lemma mapLeavesFields_eq_map (f : PyObj → PyObj) (fields : List (PyKey × PyObj)) :
    mapLeavesFields f fields = fields.map fun kv => (kv.1, kv.2.mapLeaves f) := by
  induction fields with
  | nil => rfl
  | cons kv rest ih =>
    obtain ⟨k, v⟩ := kv
    rw [mapLeavesFields, List.map_cons, ih]

/-- A tree with string keys becomes a JSON value if each of its leaves does. -/
theorem isJson_mapLeaves {f : PyObj → PyObj} {o : PyObj} (ho : o.StrKeyed)
    (hf : ∀ l ∈ o.leaves, (f l).IsJson) : (o.mapLeaves f).IsJson := by
  induction o using treeInduction with
  | leaf o hleaf =>
    rw [leaves_of_isLeaf hleaf, List.forall_mem_singleton] at hf
    rwa [mapLeaves_of_isLeaf hleaf]
  | list items ih =>
    rw [StrKeyed, strKeyedList_iff] at ho
    rw [mapLeaves, IsJson, isJsonList_iff, mapLeavesList_eq_map, List.forall_mem_map]
    intro o hmem
    exact ih o hmem (ho o hmem) fun l hl => hf l (mem_leavesList.mpr ⟨o, hmem, hl⟩)
  | dict fields ih =>
    rw [StrKeyed, strKeyedFields_iff] at ho
    obtain ⟨hnodup, ho⟩ := ho
    rw [mapLeaves, IsJson, isJsonFields_iff, mapLeavesFields_eq_map, List.map_map,
      List.forall_mem_map]
    refine ⟨hnodup, fun kv hkv => ⟨(ho kv hkv).1, ?_⟩⟩
    exact ih kv hkv (ho kv hkv).2 fun l hl => hf l (mem_leavesFields.mpr ⟨kv, hkv, hl⟩)

end PyObj
