import Hedwig.Callback
import Hedwig.Validators.Base

set_option relaxedAutoImplicit false
set_option autoImplicit false

/-!
# Version patterns

The patterns `1.*` under which the tables of the settings and the schema of an application list
the major versions of a type.  The validators read a pattern with a regular expression and `int`;
the lookups build it from a major version.

## Main definitions

* `Hedwig.versionPatternMatch` — `_version_pattern_re`, the same in both validators.
* `Hedwig.intOfDigits` — `int` of a group of digits.
* `Hedwig.PatternMajor` — a pattern matches, and its number is a major version.

## Main results

* `Hedwig.versionPatternMatch_eq_some_iff` — the texts that match.
* `Hedwig.PatternMajor.eq_of_versionPattern` — a pattern that is built from a major version has that
  number.
-/

namespace Hedwig

/-- `int(m.group(i))` for a group of decimal digits.  Their number is limited. -/
def intOfDigits (digits : List Char) : Except PyException ℕ :=
  match PyStr.nat? digits with
  | some n => .ok n
  | none => .error (.new .valueError ("Exceeds the limit (" ++ toString PyStr.maxStrDigits ++
      " digits) for integer string conversion"))

lemma intOfDigits_eq_ok {digits : List Char} {n : ℕ} :
    intOfDigits digits = .ok n ↔ PyStr.nat? digits = some n := by
  rw [intOfDigits]
  cases PyStr.nat? digits <;> simp

/-- The group of `_version_pattern_re.match(version_pattern)`: `^([0-9]+)\.\*$`. -/
def versionPatternMatch (cs : List Char) : Option (List Char) :=
  match cs.dropWhile Char.isDigit with
  | '.' :: '*' :: tail =>
    if cs.takeWhile Char.isDigit ≠ [] ∧ StrictVersion.atEnd tail = true then
      some (cs.takeWhile Char.isDigit)
    else none
  | _ => none

/-- The texts that match are digits, a dot and an asterisk, up to a line feed at the end. -/
lemma versionPatternMatch_eq_some_iff {cs digits : List Char} :
    versionPatternMatch cs = some digits ↔
      digits ≠ [] ∧ (∀ c ∈ digits, c.isDigit = true) ∧
        ∃ tail, StrictVersion.atEnd tail = true ∧ cs = digits ++ '.' :: '*' :: tail := by
  constructor
  · intro h
    rw [versionPatternMatch] at h
    split at h
    · rename_i tail htail
      split_ifs at h with hmatch
      obtain rfl := Option.some.inj h
      refine ⟨hmatch.1, fun c hc => List.mem_takeWhile_imp hc, tail, hmatch.2, ?_⟩
      rw [← htail, List.takeWhile_append_dropWhile]
    · cases h
  · rintro ⟨hne, hdigits, tail, htail, rfl⟩
    have htake : (digits ++ '.' :: '*' :: tail).takeWhile Char.isDigit = digits := by
      rw [List.takeWhile_append_of_pos hdigits, List.takeWhile_cons_of_neg (by decide),
        List.append_nil]
    have hdrop : (digits ++ '.' :: '*' :: tail).dropWhile Char.isDigit = '.' :: '*' :: tail := by
      rw [List.dropWhile_append_of_pos hdigits, List.dropWhile_cons_of_neg (by decide)]
    simp only [versionPatternMatch, htake, hdrop, hne, htail, ne_eq, not_false_eq_true, and_self,
      if_true]

/-- A pattern matches, and its number is a major version, as `int` reads it. -/
def PatternMajor (versionPattern : String) (majorVersion : ℕ) : Prop :=
  ∃ digits, versionPatternMatch versionPattern.toList = some digits ∧
    PyStr.nat? digits = some majorVersion

/-- A pattern has one major version. -/
lemma PatternMajor.unique {versionPattern : String} {n m : ℕ} (hn : PatternMajor versionPattern n)
    (hm : PatternMajor versionPattern m) : n = m := by
  obtain ⟨digits, hdigits, hn⟩ := hn
  obtain ⟨digits', hdigits', hm⟩ := hm
  obtain rfl := Option.some.inj (hdigits.symm.trans hdigits')
  exact Option.some.inj (hn.symm.trans hm)

/-- The characters of the pattern that a lookup builds. -/
lemma toList_versionPattern (majorVersion : ℕ) :
    (Callback.versionPattern majorVersion).toList =
      Nat.toDigits 10 majorVersion ++ ['.', '*'] := by
  rw [Callback.versionPattern, String.toList_append, Nat.toString_eq_repr, Nat.toList_repr]
  rfl

/-- The pattern that a lookup builds matches. -/
lemma versionPatternMatch_versionPattern (majorVersion : ℕ) :
    versionPatternMatch (Callback.versionPattern majorVersion).toList =
      some (Nat.toDigits 10 majorVersion) := by
  refine versionPatternMatch_eq_some_iff.mpr ⟨Nat.toDigits_ne_nil, fun c hc => ?_, [], rfl, ?_⟩
  · exact Nat.isDigit_of_mem_toDigits (by omega) (by omega) hc
  · exact toList_versionPattern majorVersion

/-- The number of a pattern that a lookup builds is its major version. -/
lemma PatternMajor.eq_of_versionPattern {n m : ℕ}
    (h : PatternMajor (Callback.versionPattern n) m) : m = n := by
  obtain ⟨digits, hmatch, hm⟩ := h
  rw [versionPatternMatch_versionPattern] at hmatch
  obtain rfl := Option.some.inj hmatch
  exact PyStr.nat?_toDigits hm

end Hedwig
