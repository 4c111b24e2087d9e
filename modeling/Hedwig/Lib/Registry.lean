import Mathlib.Data.List.Forall2
import Hedwig.Lib.PyDict

set_option relaxedAutoImplicit false
set_option autoImplicit false

/-!
# Registration

A loop that registers entries under keys.  Each entry is examined by itself, which reports errors
and may give a key; the first entry with a key is registered under it, and a later one with the
same key is reported as a duplicate.  The errors are collected, and examining may also end the loop
with an exception.

## Main definitions

* `Registry.register` — one turn of the loop; `Registry.registerAll` — the loop.

## Main results

* `Registry.registerAll_eq_ok_nil_iff` — there is no error exactly if each entry has a key of its
  own, and then the registry is the list of keys with their entries.
* `Registry.get?_eq_some_iff` — what is found in such a registry.
* `Registry.exists_keys_iff` — each entry has a key of its own, as a property of the entries.
-/

namespace Registry

variable {α κ ε ω : Type} [DecidableEq κ] (examine : α → Except ω (List ε × Option κ))
  (duplicate : κ → ε)

/-- One turn of the loop, on the errors and the registry so far. -/
def register (s : List ε × PyDict κ α) (a : α) : Except ω (List ε × PyDict κ α) :=
  match examine a with
  | .error e => .error e
  | .ok (own, none) => .ok (s.1 ++ own, s.2)
  | .ok (own, some key) =>
    if key ∈ s.2.keys then .ok (s.1 ++ own ++ [duplicate key], s.2)
    else .ok (s.1 ++ own, s.2.set key a)

/-- The loop. -/
def registerAll (s : List ε × PyDict κ α) : List α → Except ω (List ε × PyDict κ α)
  | [] => .ok s
  | a :: rest =>
    match register examine duplicate s a with
    | .error e => .error e
    | .ok s => registerAll s rest

variable {examine duplicate} {errors : List ε} {d d' : PyDict κ α} {a : α} {l : List α}

/-- The loop goes on with the rest. -/
lemma registerAll_cons_eq_ok {s s' : List ε × PyDict κ α} :
    registerAll examine duplicate s (a :: l) = .ok s' ↔
      ∃ t, register examine duplicate s a = .ok t ∧ registerAll examine duplicate t l = .ok s' := by
  rw [registerAll]
  cases register examine duplicate s a with
  | error e => simp
  | ok t => simp

section

variable (hskip : ∀ a own, examine a = .ok (own, none) → own ≠ [])
include hskip

/-- A turn without errors registers the entry under a new key. -/
lemma register_eq_ok_nil_iff :
    register examine duplicate (errors, d) a = .ok ([], d') ↔
      errors = [] ∧ ∃ key, examine a = .ok ([], some key) ∧ key ∉ d.keys ∧ d' = d.set key a := by
  rw [register]
  cases hexamine : examine a with
  | error e => simp
  | ok result =>
    obtain ⟨own, key⟩ := result
    cases key with
    | none =>
      have hne := hskip a own hexamine
      simp [hne]
    | some key =>
      by_cases hkey : key ∈ d.keys
      · simp [hkey]
      · simp [hkey, eq_comm, and_assoc]

/-- **Registration without errors.**  Nothing is reported exactly if each entry has a key of its
own: by induction on the entries, the registry is the one before with the new items appended.

**Proof sketch.**  Nothing is reported of the first entry exactly if it has a key that the registry
lacks, and then the induction hypothesis applies to the registry with this item at its end.  The
keys before, the new key and the remaining keys are the same list in both forms of the condition. -/
theorem registerAll_eq_ok_nil_iff :
    registerAll examine duplicate (errors, d) l = .ok ([], d') ↔
      errors = [] ∧ ∃ keys : List κ,
        List.Forall₂ (fun a key => examine a = .ok ([], some key)) l keys ∧
        (d.keys ++ keys).Nodup ∧ d'.items = d.items ++ keys.zip l := by
  induction l generalizing errors d with
  | nil =>
    have hnodup : d.keys.Nodup := d.nodup
    simp only [registerAll, Except.ok.injEq, Prod.mk.injEq, List.forall₂_nil_left_iff,
      exists_eq_left, List.append_nil, List.zip_nil_left, hnodup, true_and, PyDict.ext_iff,
      eq_comm]
  | cons a l ih =>
    rw [registerAll_cons_eq_ok]
    constructor
    · rintro ⟨⟨errors', t⟩, hregister, hrest⟩
      obtain ⟨rfl, keys, hkeys, hnodup, hitems⟩ := ih.mp hrest
      obtain ⟨rfl, key, hexamine, hnew, rfl⟩ := (register_eq_ok_nil_iff hskip).mp hregister
      have hset : (d.set key a).keys = d.keys ++ [key] := by
        rw [PyDict.keys, PyDict.items_set hnew, List.map_append]
        rfl
      refine ⟨rfl, key :: keys, .cons hexamine hkeys, ?_, ?_⟩
      · rwa [hset, List.append_assoc] at hnodup
      · rw [hitems, PyDict.items_set hnew, List.append_assoc]
        rfl
    · rintro ⟨rfl, keys, hkeys, hnodup, hitems⟩
      cases hkeys with
      | @cons _ key _ keys hexamine hkeys =>
        have hnew : key ∉ d.keys := fun hmem =>
          List.disjoint_of_nodup_append hnodup hmem List.mem_cons_self
        have hset : (d.set key a).keys = d.keys ++ [key] := by
          rw [PyDict.keys, PyDict.items_set hnew, List.map_append]
          rfl
        refine ⟨([], d.set key a), (register_eq_ok_nil_iff hskip).mpr
          ⟨rfl, key, hexamine, hnew, rfl⟩, ih.mpr ⟨rfl, keys, hkeys, ?_, ?_⟩⟩
        · rwa [hset, List.append_assoc]
        · rw [hitems, PyDict.items_set hnew, List.append_assoc]
          rfl

end

/-! ## Entries and their keys -/

section

variable {R : α → κ → Prop} {keys : List κ}

omit [DecidableEq κ] in
/-- An entry and the key at its place. -/
lemma exists_key_of_mem (hkeys : List.Forall₂ R l keys) (ha : a ∈ l) :
    ∃ key ∈ keys, (key, a) ∈ keys.zip l ∧ R a key := by
  induction hkeys with
  | nil => cases ha
  | cons hkey _ ih =>
    rcases List.mem_cons.mp ha with rfl | ha
    · exact ⟨_, List.mem_cons_self, List.mem_cons_self, hkey⟩
    · obtain ⟨key, hmem, hzip, hrel⟩ := ih ha
      exact ⟨key, List.mem_cons_of_mem _ hmem, List.mem_cons_of_mem _ hzip, hrel⟩

omit [DecidableEq κ] in
/-- A key belongs to some entry. -/
lemma exists_entry_of_mem (hkeys : List.Forall₂ R l keys) {key : κ} (hkey : key ∈ keys) :
    ∃ a ∈ l, R a key := by
  induction hkeys with
  | nil => cases hkey
  | cons hrel _ ih =>
    rcases List.mem_cons.mp hkey with rfl | hkey
    · exact ⟨_, List.mem_cons_self, hrel⟩
    · obtain ⟨a, ha, hrel⟩ := ih hkey
      exact ⟨a, List.mem_cons_of_mem _ ha, hrel⟩

variable (hunique : ∀ a key key', R a key → R a key' → key = key')
include hunique

/-- The entry that is found under a key is the one with that key. -/
lemma get?_eq_some_iff (hkeys : List.Forall₂ R l keys) (hitems : d.items = keys.zip l) {key : κ} :
    d.get? key = some a ↔ a ∈ l ∧ R a key := by
  rw [PyDict.get?_eq_some_iff, hitems]
  constructor
  · intro hmem
    exact ⟨(List.of_mem_zip hmem).2, (List.forall₂_iff_zip.mp hkeys.flip).2 hmem⟩
  · rintro ⟨hmem, hkey⟩
    obtain ⟨key', -, hzip, hrel⟩ := exists_key_of_mem hkeys hmem
    rwa [hunique a key key' hkey hrel]

omit [DecidableEq κ] in
/-- Each entry has a key and no two have the same one: by induction on the entries. -/
lemma exists_keys_iff :
    (∃ keys, List.Forall₂ R l keys ∧ keys.Nodup) ↔
      (∀ a ∈ l, ∃ key, R a key) ∧ l.Pairwise fun a a' => ∀ key, R a key → ¬ R a' key := by
  induction l with
  | nil => simp
  | cons a l ih =>
    rw [List.forall_mem_cons, List.pairwise_cons]
    constructor
    · rintro ⟨_, hkeys, hnodup⟩
      cases hkeys with
      | @cons _ key _ keys hkey hkeys =>
        rw [List.nodup_cons] at hnodup
        obtain ⟨hall, hpairwise⟩ := ih.mp ⟨keys, hkeys, hnodup.2⟩
        refine ⟨⟨⟨key, hkey⟩, hall⟩, fun a' ha' key' hkey' hrel => hnodup.1 ?_, hpairwise⟩
        obtain ⟨key'', hmem, -, hrel'⟩ := exists_key_of_mem hkeys ha'
        rwa [hunique _ _ _ hkey hkey', hunique _ _ _ hrel hrel']
    · rintro ⟨⟨⟨key, hkey⟩, hall⟩, hdistinct, hpairwise⟩
      obtain ⟨keys, hkeys, hnodup⟩ := ih.mpr ⟨hall, hpairwise⟩
      refine ⟨key :: keys, .cons hkey hkeys, List.nodup_cons.mpr ⟨fun hmem => ?_, hnodup⟩⟩
      obtain ⟨a', ha', hrel⟩ := exists_entry_of_mem hkeys hmem
      exact hdistinct a' ha' key hkey hrel

end

end Registry
