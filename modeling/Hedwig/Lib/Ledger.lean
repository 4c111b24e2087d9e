import Mathlib.Data.List.Count
import Mathlib.Data.List.Nodup
import Mathlib.Order.Interval.Finset.Nat

set_option relaxedAutoImplicit false
set_option autoImplicit false

/-!
# Ledgers of tokens

Tokens are issued to holders, who spend each at most once or drop it.  If no token is issued twice,
then none is spent twice, whoever holds and spends it.

## Main definitions

* `Ledger` — what was issued, what is held, and what was spent.
* `Ledger.Balanced` — no holder has held or spent more than was issued to it.

## Main results

* `Ledger.Balanced.transfer` — one holder receives tokens, spends and drops some.
* `Ledger.Balanced.nodup_spent` — no token is spent twice if none is issued twice.
* `length_le_of_nodup` — distinct numbers between `1` and `n` are at most `n`.
-/

/-- Tokens issued to holders, held by them, and spent by them. -/
structure Ledger (ι τ : Type) where
  issued : List (ι × τ)
  held : ι → List τ
  spent : List (ι × τ)

namespace Ledger

open scoped List

variable {ι τ : Type} [DecidableEq ι] [DecidableEq τ]

/-- Every holder has spent and holds each token at most as often as it was issued to that
holder. -/
def Balanced (l : Ledger ι τ) : Prop :=
  ∀ i x, l.spent.count (i, x) + (l.held i).count x ≤ l.issued.count (i, x)

/-- Tokens of one holder are counted by counting the tokens. -/
lemma count_map_mk (i : ι) (xs : List τ) (x : τ) :
    (xs.map (Prod.mk i)).count (i, x) = xs.count x :=
  List.count_map_of_injective xs (Prod.mk i) (Prod.mk_right_injective i) x

/-- Tokens of another holder are not counted. -/
lemma count_map_mk_of_ne {i j : ι} (h : j ≠ i) (xs : List τ) (x : τ) :
    (xs.map (Prod.mk i)).count (j, x) = 0 := by
  rw [List.count_eq_zero]
  intro hmem
  obtain ⟨y, -, hy⟩ := List.mem_map.mp hmem
  exact h (congrArg Prod.fst hy).symm

variable {l l' : Ledger ι τ}

/-- **One holder moves**: it is issued `xs` and spends `ys`, and what it holds and spends is
covered by what it held and was issued.

**Proof sketch.**  Count one token of one holder: for the one that moves the counts are compared by
the assumption, and for the others nothing changes. -/
lemma Balanced.transfer (h : l.Balanced) {i : ι} {xs ys : List τ}
    (hissued : l'.issued = xs.map (Prod.mk i) ++ l.issued)
    (hspent : l'.spent = ys.map (Prod.mk i) ++ l.spent)
    (hheld : ys ++ l'.held i <+~ xs ++ l.held i)
    (hother : ∀ j, j ≠ i → l'.held j = l.held j) : l'.Balanced := by
  intro j x
  rw [hissued, hspent, List.count_append, List.count_append]
  have hbalanced := h j x
  by_cases hj : j = i
  · subst hj
    have hcount := hheld.count_le x
    rw [List.count_append, List.count_append] at hcount
    rw [count_map_mk, count_map_mk]
    omega
  · rw [count_map_mk_of_ne hj, count_map_mk_of_ne hj, hother j hj]
    omega

/-- **No token is spent twice** if none is issued twice. -/
lemma Balanced.nodup_spent (h : l.Balanced) (hissued : (l.issued.map Prod.snd).Nodup) :
    (l.spent.map Prod.snd).Nodup := by
  have hsub : l.spent <+~ l.issued := by
    rw [List.subperm_ext_iff]
    rintro ⟨i, x⟩ -
    have := h i x
    omega
  obtain ⟨m, hperm, hsublist⟩ := hsub
  exact (hperm.map Prod.snd).nodup_iff.mp (hissued.sublist (hsublist.map Prod.snd))

end Ledger

/-- Distinct numbers between `1` and `n` are at most `n`. -/
lemma length_le_of_nodup {l : List ℕ} {n : ℕ} (h : l.Nodup) (hl : ∀ x ∈ l, 1 ≤ x ∧ x ≤ n) :
    l.length ≤ n := by
  have hsub : l.toFinset ⊆ Finset.Icc 1 n := by
    intro x hx
    exact Finset.mem_Icc.mpr (hl x (List.mem_toFinset.mp hx))
  calc l.length = l.toFinset.card := (List.toFinset_card_of_nodup h).symm
    _ ≤ (Finset.Icc 1 n).card := Finset.card_le_card hsub
    _ = n := by rw [Nat.card_Icc]; omega
