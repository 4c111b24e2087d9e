import Mathlib.Data.List.Nodup

set_option relaxedAutoImplicit false
set_option autoImplicit false

/-!
# Dictionaries

Insertion-ordered dictionaries: a list of items in which no key comes twice.  Assignment replaces
the value of a key in place and appends a new key, `update` assigns the items of another
dictionary one after the other.

## Main definitions

* `PyDict` — a dictionary, with the uniqueness of its keys.
* `PyDict.get?`, `PyDict.set`, `PyDict.update`, `PyDict.erase`, `PyDict.filterKeys`,
  `PyDict.mapItems`, `PyDict.traverse` — the operations.

## Main results

* `PyDict.items_update` — updating with new keys appends the items.
* `PyDict.get?_eq_some_iff` — looking up a key finds its item.
-/

/-- A dictionary: its items in insertion order, no key twice. -/
structure PyDict (κ ν : Type) where
  items : List (κ × ν)
  nodup : (items.map Prod.fst).Nodup

namespace PyDict

variable {κ ν : Type}

/-- A dictionary is its list of items. -/
@[ext] lemma ext {d e : PyDict κ ν} (h : d.items = e.items) : d = e := by
  cases d
  cases e
  simpa using h

/-- The keys in insertion order. -/
def keys (d : PyDict κ ν) : List κ := d.items.map Prod.fst

/-- The empty dictionary. -/
def empty : PyDict κ ν := ⟨[], List.nodup_nil⟩

@[simp] lemma items_empty : (empty : PyDict κ ν).items = [] := rfl

@[simp] lemma keys_empty : (empty : PyDict κ ν).keys = [] := rfl

/-- A key is in the dictionary exactly if some item has it. -/
lemma mem_keys {d : PyDict κ ν} {k : κ} : k ∈ d.keys ↔ ∃ v, (k, v) ∈ d.items := by
  simp [keys]

/-- Filtering by a property of the keys. -/
def filterKeys (p : κ → Bool) (d : PyDict κ ν) : PyDict κ ν where
  items := d.items.filter fun kv => p kv.1
  nodup := by
    have h : (d.items.filter fun kv => p kv.1).map Prod.fst = (d.items.map Prod.fst).filter p := by
      rw [List.filter_map]
      rfl
    rw [h]
    exact d.nodup.filter _

@[simp] lemma items_filterKeys (p : κ → Bool) (d : PyDict κ ν) :
    (d.filterKeys p).items = d.items.filter fun kv => p kv.1 := rfl

/-- Rename the keys, injectively, and convert the values. -/
def mapItems {κ' ν' : Type} (f : κ → κ') (hf : Function.Injective f) (g : ν → ν')
    (d : PyDict κ ν) : PyDict κ' ν' where
  items := d.items.map fun kv => (f kv.1, g kv.2)
  nodup := by
    rw [List.map_map, show (Prod.fst ∘ fun kv : κ × ν => (f kv.1, g kv.2)) = f ∘ Prod.fst from rfl,
      ← List.map_map]
    exact d.nodup.map hf

@[simp] lemma items_mapItems {κ' ν' : Type} (f : κ → κ') (hf : Function.Injective f) (g : ν → ν')
    (d : PyDict κ ν) : (d.mapItems f hf g).items = d.items.map fun kv => (f kv.1, g kv.2) := rfl

variable [DecidableEq κ]

/-- `d.get(k)`. -/
def get? (d : PyDict κ ν) (k : κ) : Option ν := (d.items.find? fun kv => kv.1 = k).map Prod.snd

/-- Looking up a key finds the value of its item. -/
lemma get?_eq_some_iff {d : PyDict κ ν} {k : κ} {v : ν} :
    d.get? k = some v ↔ (k, v) ∈ d.items := by
  constructor
  · intro h
    obtain ⟨kv, hfind, rfl⟩ := Option.map_eq_some_iff.mp h
    have hk : kv.1 = k := by simpa using List.find?_some hfind
    rw [← hk]
    exact List.mem_of_find?_eq_some hfind
  · intro h
    cases hfind : d.items.find? fun kv => kv.1 = k with
    | none => simpa using List.find?_eq_none.mp hfind (k, v) h
    | some kv =>
      have hk : kv.1 = k := by simpa using List.find?_some hfind
      have heq : kv = (k, v) :=
        List.inj_on_of_nodup_map d.nodup (List.mem_of_find?_eq_some hfind) h hk
      simp [get?, hfind, heq]

/-- Looking up fails exactly for a key that is not in the dictionary. -/
lemma get?_eq_none_iff {d : PyDict κ ν} {k : κ} : d.get? k = none ↔ k ∉ d.keys := by
  rw [mem_keys]
  constructor
  · rintro h ⟨v, hv⟩
    rw [get?_eq_some_iff.mpr hv] at h
    cases h
  · intro h
    cases hg : d.get? k with
    | none => rfl
    | some v => exact absurd ⟨v, get?_eq_some_iff.mp hg⟩ h

/-- `d[k] = v`. -/
def set (d : PyDict κ ν) (k : κ) (v : ν) : PyDict κ ν where
  items :=
    if k ∈ d.items.map Prod.fst then d.items.map fun kv => if kv.1 = k then (k, v) else kv
    else d.items ++ [(k, v)]
  nodup := by
    split_ifs with h
    · have hkeys : (d.items.map fun kv => if kv.1 = k then (k, v) else kv).map Prod.fst =
          d.items.map Prod.fst := by
        rw [List.map_map]
        refine List.map_congr_left fun kv _ => ?_
        by_cases hk : kv.1 = k <;> simp [hk]
      rw [hkeys]
      exact d.nodup
    · rw [List.map_append]
      refine List.Nodup.append d.nodup (by simp) ?_
      intro a ha hb
      obtain rfl : a = k := by simpa using hb
      exact h ha

/-- Assigning a new key appends its item. -/
lemma items_set {d : PyDict κ ν} {k : κ} (h : k ∉ d.keys) (v : ν) :
    (d.set k v).items = d.items ++ [(k, v)] := if_neg h

/-- Assigning a key does not change which other keys there are. -/
lemma mem_keys_set {d : PyDict κ ν} {k k' : κ} {v : ν} :
    k' ∈ (d.set k v).keys ↔ k' ∈ d.keys ∨ k' = k := by
  by_cases h : k ∈ d.items.map Prod.fst
  · have hkeys : (d.set k v).keys = d.keys := by
      simp only [keys, set, if_pos h, List.map_map]
      refine List.map_congr_left fun kv _ => ?_
      by_cases hk : kv.1 = k <;> simp [hk]
    rw [hkeys]
    exact ⟨.inl, fun hk => hk.elim id fun he => he ▸ h⟩
  · simp only [keys, items_set h, List.map_append, List.mem_append, List.map_cons, List.map_nil,
      List.mem_singleton]

/-- `d.update(e)`, and `{**d, **e}`. -/
def update (d e : PyDict κ ν) : PyDict κ ν := e.items.foldl (fun d kv => d.set kv.1 kv.2) d

/-- Assigning items with new, distinct keys appends them. -/
lemma items_foldl_set (items : List (κ × ν)) (d : PyDict κ ν)
    (hd : (items.map Prod.fst).Nodup) (h : ∀ k ∈ items.map Prod.fst, k ∉ d.keys) :
    (items.foldl (fun d kv => d.set kv.1 kv.2) d).items = d.items ++ items := by
  induction items generalizing d with
  | nil => simp
  | cons kv rest ih =>
    rw [List.map_cons, List.nodup_cons] at hd
    have hset := items_set (h kv.1 (by simp)) kv.2
    rw [List.foldl_cons, ih _ hd.2, hset, List.append_assoc]
    · rfl
    · intro k hk hmem
      rcases mem_keys_set.mp hmem with hold | rfl
      · exact h k (List.mem_cons_of_mem _ hk) hold
      · exact hd.1 hk

/-- Updating with new keys appends the items. -/
lemma items_update {d e : PyDict κ ν} (h : ∀ k ∈ e.keys, k ∉ d.keys) :
    (d.update e).items = d.items ++ e.items := items_foldl_set e.items d e.nodup h

/-- The dictionary with these items, a later item replacing an earlier one with its key. -/
def ofList (items : List (κ × ν)) : PyDict κ ν :=
  items.foldl (fun d kv => d.set kv.1 kv.2) empty

/-- A list without repeated keys is the list of items of its dictionary. -/
lemma items_ofList {items : List (κ × ν)} (h : (items.map Prod.fst).Nodup) :
    (ofList items).items = items := by
  have := items_foldl_set items empty h (by simp)
  simpa [ofList] using this

/-- A dictionary is the one with its items. -/
@[simp] lemma ofList_items (d : PyDict κ ν) : ofList d.items = d := ext (items_ofList d.nodup)

/-- The dictionary without a key, as `d.pop(k, None)` leaves it. -/
def erase (d : PyDict κ ν) (k : κ) : PyDict κ ν := d.filterKeys fun k' => k' ≠ k

/-- Removing a key that is not there changes nothing. -/
lemma erase_eq_self {d : PyDict κ ν} {k : κ} (h : k ∉ d.keys) : d.erase k = d := by
  refine ext (List.filter_eq_self.mpr fun kv hkv => ?_)
  have : kv.1 ≠ k := fun he => h (mem_keys.mpr ⟨kv.2, he ▸ hkv⟩)
  simpa using this

/-- Looking up a key that was just assigned. -/
@[simp] lemma get?_set_self (d : PyDict κ ν) (k : κ) (v : ν) : (d.set k v).get? k = some v := by
  rw [get?_eq_some_iff]
  by_cases h : k ∈ d.items.map Prod.fst
  · obtain ⟨kv, hkv, rfl⟩ := List.mem_map.mp h
    simp only [set, if_pos h]
    exact List.mem_map.mpr ⟨kv, hkv, by simp⟩
  · rw [items_set h]
    simp

/-- Removing a key that was just assigned. -/
lemma erase_set {d : PyDict κ ν} {k : κ} (h : k ∉ d.keys) (v : ν) : (d.set k v).erase k = d := by
  refine ext ?_
  have hself : d.items.filter (fun kv => decide (kv.1 ≠ k)) = d.items :=
    congrArg PyDict.items (erase_eq_self h)
  simp only [erase, items_filterKeys, items_set h, List.filter_append, hself]
  simp

/-- Assigning an item leaves the items of the other keys. -/
lemma mem_items_set {d : PyDict κ ν} {k : κ} {v : ν} {kv : κ × ν} (h : kv ∈ (d.set k v).items) :
    kv ∈ d.items ∨ kv = (k, v) := by
  by_cases hk : k ∈ d.items.map Prod.fst
  · simp only [set, if_pos hk] at h
    obtain ⟨kv', hkv', rfl⟩ := List.mem_map.mp h
    by_cases he : kv'.1 = k
    · exact .inr (if_pos he)
    · exact .inl (by rwa [if_neg he])
  · rw [items_set hk] at h
    simpa using h

/-- An item that is there after some assignments was there before or was assigned. -/
lemma mem_items_foldl_set {items : List (κ × ν)} {d : PyDict κ ν} {kv : κ × ν}
    (h : kv ∈ (items.foldl (fun d kv => d.set kv.1 kv.2) d).items) :
    kv ∈ d.items ∨ kv ∈ items := by
  induction items generalizing d with
  | nil => exact .inl h
  | cons kv' rest ih =>
    rcases ih h with hset | hrest
    · rcases mem_items_set hset with hd | rfl
      · exact .inl hd
      · exact .inr List.mem_cons_self
    · exact .inr (List.mem_cons_of_mem _ hrest)

/-- An item of an updated dictionary comes from one of the two. -/
lemma mem_items_update {d e : PyDict κ ν} {kv : κ × ν} (h : kv ∈ (d.update e).items) :
    kv ∈ d.items ∨ kv ∈ e.items := mem_items_foldl_set h

/-- An item of the dictionary with some items is one of them. -/
lemma mem_items_ofList {items : List (κ × ν)} {kv : κ × ν} (h : kv ∈ (ofList items).items) :
    kv ∈ items := by
  rcases mem_items_foldl_set h with hempty | hitems
  · cases hempty
  · exact hitems

/-- The keys after some assignments. -/
lemma mem_keys_foldl_set {items : List (κ × ν)} {d : PyDict κ ν} {k : κ} :
    k ∈ (items.foldl (fun d kv => d.set kv.1 kv.2) d).keys ↔
      k ∈ d.keys ∨ k ∈ items.map Prod.fst := by
  induction items generalizing d with
  | nil => simp
  | cons kv rest ih =>
    rw [List.foldl_cons, ih, mem_keys_set, List.map_cons, List.mem_cons, or_assoc]

/-- The keys of an updated dictionary are those of both. -/
lemma mem_keys_update {d e : PyDict κ ν} {k : κ} :
    k ∈ (d.update e).keys ↔ k ∈ d.keys ∨ k ∈ e.keys := mem_keys_foldl_set

/-- The keys of the dictionary with some items are theirs. -/
lemma mem_keys_ofList {items : List (κ × ν)} {k : κ} :
    k ∈ (ofList items).keys ↔ k ∈ items.map Prod.fst := by
  rw [ofList, mem_keys_foldl_set, keys_empty]
  exact or_iff_right List.not_mem_nil

/-- Looking up another key than the one that was just assigned. -/
lemma get?_set_of_ne (d : PyDict κ ν) {k k' : κ} (v : ν) (h : k' ≠ k) :
    (d.set k v).get? k' = d.get? k' := by
  refine Option.ext fun w => ?_
  rw [get?_eq_some_iff, get?_eq_some_iff]
  by_cases hk : k ∈ d.items.map Prod.fst
  · simp only [set, if_pos hk]
    constructor
    · intro hmem
      obtain ⟨kv, hkv, he⟩ := List.mem_map.mp hmem
      by_cases hkk : kv.1 = k
      · rw [if_pos hkk] at he
        exact absurd (congrArg Prod.fst he).symm h
      · rw [if_neg hkk] at he
        rwa [← he]
    · intro hmem
      exact List.mem_map.mpr ⟨_, hmem, if_neg h⟩
  · rw [items_set hk, List.mem_append, List.mem_singleton]
    refine or_iff_left fun he => h (congrArg Prod.fst he)

/-- Looking up a key after a number of assignments, by induction on them. -/
lemma get?_foldl_set {items : List (κ × ν)} (hitems : (items.map Prod.fst).Nodup)
    (d : PyDict κ ν) (k : κ) :
    (items.foldl (fun d kv => d.set kv.1 kv.2) d).get? k =
      ((items.find? fun kv => kv.1 = k).map Prod.snd).or (d.get? k) := by
  induction items generalizing d with
  | nil => rfl
  | cons kv rest ih =>
    rw [List.map_cons, List.nodup_cons] at hitems
    rw [List.foldl_cons, ih hitems.2]
    by_cases hk : kv.1 = k
    · subst hk
      have hrest : rest.find? (fun kv' => kv'.1 = kv.1) = none := by
        refine List.find?_eq_none.mpr fun kv' hkv' => ?_
        have hne : kv'.1 ≠ kv.1 := fun he => hitems.1 (he ▸ List.mem_map_of_mem hkv')
        simpa using hne
      simp [hrest]
    · rw [List.find?_cons_of_neg (by simpa using hk), get?_set_of_ne d kv.2 (Ne.symm hk)]

/-- In `{**d, **e}` the items of `e` override those of `d`. -/
lemma get?_update (d e : PyDict κ ν) (k : κ) : (d.update e).get? k = (e.get? k).or (d.get? k) :=
  get?_foldl_set e.nodup d k

/-- Looking up a key among some of the keys. -/
lemma get?_filterKeys (p : κ → Bool) (d : PyDict κ ν) (k : κ) :
    (d.filterKeys p).get? k = if p k then d.get? k else none := by
  refine Option.ext fun v => ?_
  rw [get?_eq_some_iff, items_filterKeys, List.mem_filter]
  cases hp : p k with
  | true => simp [get?_eq_some_iff]
  | false => simp

/-- Looking up a renamed key finds the converted value. -/
@[simp] lemma get?_mapItems {κ' ν' : Type} [DecidableEq κ'] (f : κ → κ')
    (hf : Function.Injective f) (g : ν → ν') (d : PyDict κ ν) (k : κ) :
    (d.mapItems f hf g).get? (f k) = (d.get? k).map g := by
  refine Option.ext fun w => ?_
  rw [get?_eq_some_iff, items_mapItems, List.mem_map, Option.map_eq_some_iff]
  constructor
  · rintro ⟨kv, hkv, he⟩
    obtain ⟨hk, rfl⟩ := Prod.mk.inj he
    exact ⟨kv.2, get?_eq_some_iff.mpr (hf hk ▸ hkv), rfl⟩
  · rintro ⟨v, hv, rfl⟩
    exact ⟨(k, v), get?_eq_some_iff.mp hv, rfl⟩

/-! ## Comprehensions -/

/-- `{f(k, v) for k, v in d.items()}` for a body that may raise: the new items are computed in
order, a later one replacing an earlier one with its key. -/
def traverse {κ' ν' ε : Type} [DecidableEq κ'] (f : κ × ν → Except ε (κ' × ν'))
    (d : PyDict κ ν) : Except ε (PyDict κ' ν') := do
  let items ← d.items.mapM f
  return ofList items

section Traverse

variable {κ' ν' ε : Type} [DecidableEq κ'] {f : κ × ν → Except ε (κ' × ν')} {d : PyDict κ ν}

omit [DecidableEq κ] in
/-- A body that never raises maps the items. -/
lemma traverse_eq_ok {g : κ × ν → κ' × ν'} (h : ∀ kv ∈ d.items, f kv = .ok (g kv)) :
    d.traverse f = .ok (ofList (d.items.map g)) := by
  have hmap : ∀ items : List (κ × ν), (∀ kv ∈ items, f kv = .ok (g kv)) →
      items.mapM f = .ok (items.map g) := by
    intro items
    induction items with
    | nil => exact fun _ => rfl
    | cons kv rest ih =>
      intro hall
      rw [List.mapM_cons, hall kv List.mem_cons_self,
        ih fun kv' hkv' => hall kv' (List.mem_cons_of_mem _ hkv')]
      rfl
  rw [traverse, hmap d.items h]
  rfl

omit [DecidableEq κ] in
/-- A comprehension returns exactly if its body does for every item. -/
lemma exists_traverse_eq_ok :
    (∃ e, d.traverse f = .ok e) ↔ ∀ kv ∈ d.items, ∃ kv', f kv = .ok kv' := by
  have hmap : ∀ items : List (κ × ν),
      (∃ items', items.mapM f = .ok items') ↔ ∀ kv ∈ items, ∃ kv', f kv = .ok kv' := by
    intro items
    induction items with
    | nil => exact iff_of_true ⟨[], rfl⟩ (by simp)
    | cons kv rest ih =>
      rw [List.forall_mem_cons, ← ih, List.mapM_cons]
      cases f kv with
      | error e => simp [bind, Except.bind]
      | ok kv' => cases rest.mapM f <;> simp [bind, Except.bind, pure, Except.pure]
  rw [← hmap, traverse]
  cases d.items.mapM f <;> simp [bind, Except.bind, pure, Except.pure]

omit [DecidableEq κ] in
/-- A body that undoes a renaming gives the dictionary back. -/
lemma traverse_mapItems {g : κ' → κ} (hg : Function.Injective g) {g' : ν' → ν}
    {d' : PyDict κ' ν'} (h : ∀ kv ∈ d'.items, f (g kv.1, g' kv.2) = .ok kv) :
    (d'.mapItems g hg g').traverse f = .ok d' := by
  have hmap : ∀ items : List (κ' × ν'), (∀ kv ∈ items, f (g kv.1, g' kv.2) = .ok kv) →
      (items.map fun kv => (g kv.1, g' kv.2)).mapM f = .ok items := by
    intro items
    induction items with
    | nil => exact fun _ => rfl
    | cons kv rest ih =>
      intro hall
      rw [List.map_cons, List.mapM_cons, hall kv List.mem_cons_self,
        ih fun kv' hkv' => hall kv' (List.mem_cons_of_mem _ hkv')]
      rfl
  rw [traverse, items_mapItems, hmap d'.items h]
  exact congrArg Except.ok (ofList_items d')

end Traverse

end PyDict
