import Mathlib.Data.List.Basic

set_option relaxedAutoImplicit false
set_option autoImplicit false

/-!
# Collecting what a check reports

A loop that checks entry after entry and collects what is reported of them.  Checking an entry may
also raise, which ends the loop.

## Main definitions

* `Collect.all` — the loop.

## Main results

* `Collect.all_eq_ok_nil_iff` — nothing is reported exactly if nothing is of any entry.
* `Collect.exists_all_eq_error_iff` — the loop raises exactly if it does at some entry.
-/

namespace Collect

variable {α β ε : Type} (check : α → Except ε (List β))

/-- The loop. -/
def all : List α → Except ε (List β)
  | [] => .ok []
  | a :: rest => do
    let reported ← check a
    let more ← all rest
    return reported ++ more

variable {check}

/-- Nothing is reported exactly if nothing is reported of any entry, by induction on the entries. -/
lemma all_eq_ok_nil_iff {l : List α} : all check l = .ok [] ↔ ∀ a ∈ l, check a = .ok [] := by
  induction l with
  | nil => simp [all]
  | cons a rest ih =>
    rw [all, List.forall_mem_cons, ← ih]
    cases hcheck : check a with
    | error e => simp [bind, Except.bind]
    | ok reported =>
      cases hrest : all check rest with
      | error e => simp [bind, Except.bind]
      | ok more => simp [bind, Except.bind, pure, Except.pure]

/-- What the loop raises was raised at some entry, by induction on the entries. -/
lemma exists_of_all_eq_error {l : List α} {e : ε} (h : all check l = .error e) :
    ∃ a ∈ l, check a = .error e := by
  induction l with
  | nil => cases h
  | cons a rest ih =>
    rw [all] at h
    cases hcheck : check a with
    | error e' =>
      rw [hcheck] at h
      exact ⟨a, List.mem_cons_self, hcheck.trans h⟩
    | ok reported =>
      cases hrest : all check rest with
      | error e' =>
        rw [hcheck, hrest] at h
        obtain ⟨b, hb, hraise⟩ := ih (hrest.trans h)
        exact ⟨b, List.mem_cons_of_mem _ hb, hraise⟩
      | ok more =>
        rw [hcheck, hrest] at h
        cases h

/-- The loop raises exactly if it does at some entry. -/
lemma exists_all_eq_error_iff {l : List α} :
    (∃ e, all check l = .error e) ↔ ∃ a ∈ l, ∃ e, check a = .error e := by
  constructor
  · rintro ⟨e, h⟩
    obtain ⟨a, ha, hraise⟩ := exists_of_all_eq_error h
    exact ⟨a, ha, e, hraise⟩
  · rintro ⟨a, ha, e, hraise⟩
    induction l with
    | nil => cases ha
    | cons b rest ih =>
      rw [all]
      cases hcheck : check b with
      | error e' => exact ⟨e', rfl⟩
      | ok reported =>
        have hmem : a ∈ rest := by
          rcases List.mem_cons.mp ha with rfl | hmem
          · cases hcheck.symm.trans hraise
          · exact hmem
        obtain ⟨e', hrest⟩ := ih hmem
        rw [hrest]
        exact ⟨e', rfl⟩

end Collect
