import Mathlib.Algebra.Group.Nat.Defs
import Hedwig.Lib.PyStr

set_option relaxedAutoImplicit false
set_option autoImplicit false

/-!
# Strict version numbers

`distutils.version.StrictVersion`: two or three numbers, and an alpha or beta number.  The text of
a version leaves out a third number that is zero.  Two versions are equal exactly if their
components are.

## Main definitions

* `StrictVersion`, `StrictVersion.str` — a version and its text.
* `StrictVersion.parse` — the version that a text denotes.

## Main results

* `StrictVersion.parse_str` — the text of a version denotes no other version.
* `StrictVersion.parse_str_of_isShort`, `StrictVersion.parse_str_of_parse` — the text of a version
  with short numbers, as every version that was read has, denotes that version.
-/

/-- The letter of a pre-release. -/
inductive PrereleaseTag
  | alpha
  | beta
  deriving DecidableEq, Repr

/-- A version number. -/
structure StrictVersion where
  major : ℕ
  minor : ℕ
  patch : ℕ
  prerelease : Option (PrereleaseTag × ℕ)
  deriving DecidableEq, Repr

namespace StrictVersion

/-! ## Text of a version -/

/-- The letter that stands for a pre-release tag. -/
def tagChar : PrereleaseTag → Char
  | .alpha => 'a'
  | .beta => 'b'

/-- The text of the pre-release. -/
def prereleaseChars : Option (PrereleaseTag × ℕ) → List Char
  | none => []
  | some (tag, n) => tagChar tag :: Nat.toDigits 10 n

/-- The text of the third number. -/
def patchChars (patch : ℕ) : List Char :=
  if patch = 0 then [] else '.' :: Nat.toDigits 10 patch

/-- The characters of `str(v)`. -/
def chars (v : StrictVersion) : List Char :=
  Nat.toDigits 10 v.major ++ '.' :: (Nat.toDigits 10 v.minor ++
    (patchChars v.patch ++ prereleaseChars v.prerelease))

/-- `str(v)`. -/
def str (v : StrictVersion) : String := String.ofList v.chars

@[simp] lemma toList_str (v : StrictVersion) : v.str.toList = v.chars := String.toList_ofList

/-- A version is written with digits, dots and the two letters. -/
lemma mem_chars {v : StrictVersion} {c : Char} (h : c ∈ v.chars) :
    c.isDigit = true ∨ c = '.' ∨ c = 'a' ∨ c = 'b' := by
  have hdigit : ∀ n, c ∈ Nat.toDigits 10 n → c.isDigit = true := fun n =>
    Nat.isDigit_of_mem_toDigits (by omega) (by omega)
  simp only [chars, List.mem_append, List.mem_cons] at h
  rcases h with h | rfl | h | h | h
  · exact .inl (hdigit _ h)
  · exact .inr (.inl rfl)
  · exact .inl (hdigit _ h)
  · rw [patchChars] at h
    split_ifs at h
    · cases h
    · rcases List.mem_cons.mp h with rfl | h
      · exact .inr (.inl rfl)
      · exact .inl (hdigit _ h)
  · rcases hp : v.prerelease with _ | ⟨tag, n⟩
    · rw [hp] at h
      cases h
    · rw [hp] at h
      rcases List.mem_cons.mp h with rfl | h
      · cases tag
        · exact .inr (.inr (.inl rfl))
        · exact .inr (.inr (.inr rfl))
      · exact .inl (hdigit _ h)

/-- A version contains no slash. -/
lemma slash_notMem_chars (v : StrictVersion) : '/' ∉ v.chars := by
  intro h
  rcases mem_chars h with hd | hd | hd | hd <;> exact absurd hd (by decide)

/-- The text of a version is not empty. -/
lemma chars_ne_nil (v : StrictVersion) : v.chars ≠ [] := by
  simp [chars]

/-! ## Reading a version -/

/-- The digits at the beginning of a text, as a number, and the rest. -/
def number (cs : List Char) : Option (ℕ × List Char) :=
  let digits := cs.takeWhile Char.isDigit
  if digits = [] ∨ PyStr.maxStrDigits < digits.length then none
  else some (Nat.ofDigitChars 10 digits 0, cs.dropWhile Char.isDigit)

/-- `$`: the end of the text, or a line feed there. -/
def atEnd (cs : List Char) : Bool := cs = [] ∨ cs = ['\n']

/-- The optional pre-release and the end of the text. -/
def parsePrerelease (major minor patch : ℕ) (cs : List Char) : Option StrictVersion :=
  match cs with
  | 'a' :: cs =>
    match number cs with
    | some (n, rest) => if atEnd rest then some ⟨major, minor, patch, some (.alpha, n)⟩ else none
    | none => none
  | 'b' :: cs =>
    match number cs with
    | some (n, rest) => if atEnd rest then some ⟨major, minor, patch, some (.beta, n)⟩ else none
    | none => none
  | cs => if atEnd cs then some ⟨major, minor, patch, none⟩ else none

/-- The optional third number, the optional pre-release and the end of the text. -/
def parsePatch (major minor : ℕ) (cs : List Char) : Option StrictVersion :=
  match cs with
  | '.' :: cs =>
    match number cs with
    | some (patch, rest) => parsePrerelease major minor patch rest
    | none => none
  | cs => parsePrerelease major minor 0 cs

/-- The version that a text denotes, `none` for `ValueError`. -/
def parse (s : String) : Option StrictVersion :=
  match number s.toList with
  | some (major, '.' :: cs) =>
    match number cs with
    | some (minor, rest) => parsePatch major minor rest
    | none => none
  | _ => none

/-- A number with no more digits than `int(s)` reads. -/
def Short (n : ℕ) : Prop := (Nat.toDigits 10 n).length ≤ PyStr.maxStrDigits

/-- A printed number is read up to the first character that is no digit, unless it is too long. -/
lemma number_append {n : ℕ} {rest : List Char} (hrest : ∀ c ∈ rest.head?, ¬ c.isDigit) :
    number (Nat.toDigits 10 n ++ rest) =
      if PyStr.maxStrDigits < (Nat.toDigits 10 n).length then none else some (n, rest) := by
  have hdigits : ∀ c ∈ Nat.toDigits 10 n, c.isDigit = true := fun c =>
    Nat.isDigit_of_mem_toDigits (by omega) (by omega)
  have htake : rest.takeWhile Char.isDigit = [] := by
    cases rest with
    | nil => rfl
    | cons c cs => exact List.takeWhile_cons_of_neg (hrest c rfl)
  have hdrop : rest.dropWhile Char.isDigit = rest := by
    cases rest with
    | nil => rfl
    | cons c cs => exact List.dropWhile_cons_of_neg (hrest c rfl)
  simp only [number, List.takeWhile_append_of_pos hdigits, List.dropWhile_append_of_pos hdigits,
    htake, hdrop, List.append_nil, Nat.ofDigitChars_ten_toDigits, Nat.toDigits_ne_nil, false_or]

/-- A printed number is read back. -/
lemma number_toDigits {n m : ℕ} {rest rest' : List Char} (hrest : ∀ c ∈ rest.head?, ¬ c.isDigit)
    (h : number (Nat.toDigits 10 n ++ rest) = some (m, rest')) : m = n ∧ rest' = rest := by
  rw [number_append hrest] at h
  split_ifs at h
  obtain ⟨rfl, rfl⟩ : n = m ∧ rest = rest' := by simpa using h
  exact ⟨rfl, rfl⟩

/-- A short number that is printed is read back. -/
lemma number_of_short {n : ℕ} {rest : List Char} (hrest : ∀ c ∈ rest.head?, ¬ c.isDigit)
    (h : Short n) : number (Nat.toDigits 10 n ++ rest) = some (n, rest) := by
  rw [number_append hrest, if_neg (Nat.not_lt.mpr h)]

/-- The text of a pre-release does not begin with a digit. -/
lemma head_prereleaseChars {p : Option (PrereleaseTag × ℕ)} :
    ∀ c ∈ (prereleaseChars p).head?, ¬ c.isDigit := by
  intro c hc
  rcases p with _ | ⟨tag, n⟩
  · cases hc
  · obtain rfl : tagChar tag = c := by simpa [prereleaseChars] using hc
    cases tag <;> decide

/-- Neither does what follows the second number. -/
lemma head_patchChars_append {patch : ℕ} {p : Option (PrereleaseTag × ℕ)} :
    ∀ c ∈ (patchChars patch ++ prereleaseChars p).head?, ¬ c.isDigit := by
  rw [patchChars]
  split_ifs
  · simpa using head_prereleaseChars
  · simp

/-- Nor with a dot. -/
lemma prereleaseChars_ne_dot {p : Option (PrereleaseTag × ℕ)} (cs : List Char) :
    prereleaseChars p ≠ '.' :: cs := by
  rcases p with _ | ⟨tag, n⟩
  · simp [prereleaseChars]
  · cases tag <;> simp [prereleaseChars, tagChar]

/-- The text of a pre-release denotes no other one. -/
lemma parsePrerelease_chars {major minor patch : ℕ} {p : Option (PrereleaseTag × ℕ)}
    {w : StrictVersion} (h : parsePrerelease major minor patch (prereleaseChars p) = some w) :
    w = ⟨major, minor, patch, p⟩ := by
  rcases p with _ | ⟨tag, n⟩
  · exact (Option.some.inj h).symm
  · have hnumber : ∀ {m rest}, number (Nat.toDigits 10 n) = some (m, rest) → m = n := by
      intro m rest hm
      rw [← List.append_nil (Nat.toDigits 10 n)] at hm
      exact (number_toDigits (by simp) hm).1
    cases tag
    all_goals
      simp only [prereleaseChars, tagChar, parsePrerelease] at h
      split at h
      · rename_i m rest hm
        split_ifs at h
        rw [← Option.some.inj h, hnumber hm]
      · cases h

/-- **The text of a version** denotes that version, or, with a number that is too long, none.

**Proof sketch.**  The parser reads the text part by part.  `number_toDigits` says that what it
reads as a number is the one that was printed, whatever follows, if the next character is no digit;
and a patch of zero is left out of the text and read as zero. -/
theorem parse_str {v w : StrictVersion} (h : parse v.str = some w) : w = v := by
  rw [parse, toList_str, chars] at h
  split at h
  · rename_i major cs hmajor
    obtain ⟨rfl, hcs⟩ := number_toDigits (by simp) hmajor
    obtain rfl := (List.cons.inj hcs).2
    split at h
    · rename_i minor rest hminor
      obtain ⟨rfl, rfl⟩ := number_toDigits head_patchChars_append hminor
      by_cases hpatch : v.patch = 0
      · rw [patchChars, if_pos hpatch, List.nil_append, parsePatch] at h
        · rw [parsePrerelease_chars h, ← hpatch]
        · exact prereleaseChars_ne_dot
      · rw [patchChars, if_neg hpatch, List.cons_append, parsePatch] at h
        split at h
        · rename_i patch rest hnum
          obtain ⟨rfl, rfl⟩ := number_toDigits head_prereleaseChars hnum
          rw [parsePrerelease_chars h]
        · cases h
    · cases h
  · cases h

/-! ## The text of a version that was read -/

/-- A version whose numbers are all short. -/
structure IsShort (v : StrictVersion) : Prop where
  major : Short v.major
  minor : Short v.minor
  patch : Short v.patch
  prerelease : ∀ tag n, v.prerelease = some (tag, n) → Short n

/-- What stands before the rest of a text that begins with a number is digits. -/
lemma mem_of_number {cs rest : List Char} {n : ℕ} {c : Char} (h : number cs = some (n, rest))
    (hc : c ∈ cs) : c.isDigit = true ∨ c ∈ rest := by
  rw [number] at h
  split_ifs at h
  obtain rfl : cs.dropWhile Char.isDigit = rest := congrArg Prod.snd (Option.some.inj h)
  rw [← List.takeWhile_append_dropWhile (p := Char.isDigit) (l := cs), List.mem_append] at hc
  exact hc.imp_left (List.all_eq_true.mp List.all_takeWhile c)

/-- The end of a text is nothing or a line feed. -/
lemma eq_lineFeed_of_atEnd {cs : List Char} {c : Char} (h : atEnd cs = true) (hc : c ∈ cs) :
    c = '\n' := by
  rcases of_decide_eq_true h with rfl | rfl
  · cases hc
  · exact List.mem_singleton.mp hc

/-- The characters of a pre-release that is read. -/
lemma mem_of_parsePrerelease {major minor patch : ℕ} {cs : List Char} {c : Char}
    {v : StrictVersion} (h : parsePrerelease major minor patch cs = some v) (hc : c ∈ cs) :
    c.isDigit = true ∨ c ∈ ['a', 'b', '\n'] := by
  have htag : ∀ {rest : List Char} {n : ℕ} {tail : List Char}, number rest = some (n, tail) →
      atEnd tail = true → c ∈ rest → c.isDigit = true ∨ c ∈ ['a', 'b', '\n'] := by
    intro rest n tail hn htail hc
    refine (mem_of_number hn hc).imp_right fun hc => ?_
    simp [eq_lineFeed_of_atEnd htail hc]
  unfold parsePrerelease at h
  split at h
  · split at h
    · rename_i hn
      split_ifs at h with htail
      exact (List.mem_cons.mp hc).elim (fun he => .inr (by simp [he])) (htag hn htail)
    · cases h
  · split at h
    · rename_i hn
      split_ifs at h with htail
      exact (List.mem_cons.mp hc).elim (fun he => .inr (by simp [he])) (htag hn htail)
    · cases h
  · split_ifs at h with htail
    simp [eq_lineFeed_of_atEnd htail hc]

/-- The characters of a version that is read. -/
lemma mem_of_parse {s : String} {v : StrictVersion} {c : Char} (h : parse s = some v)
    (hc : c ∈ s.toList) : c.isDigit = true ∨ c ∈ ['.', 'a', 'b', '\n'] := by
  have hpre : ∀ {major minor patch : ℕ} {cs : List Char},
      parsePrerelease major minor patch cs = some v → c ∈ cs →
      c.isDigit = true ∨ c ∈ ['.', 'a', 'b', '\n'] := fun h hc =>
    (mem_of_parsePrerelease h hc).imp_right (List.mem_cons_of_mem _)
  have hdot : ∀ {cs : List Char}, c ∈ '.' :: cs → c ∈ ['.', 'a', 'b', '\n'] ∨ c ∈ cs := fun hc =>
    (List.mem_cons.mp hc).imp_left fun he => by simp [he]
  rw [parse] at h
  split at h
  · rename_i major cs hmajor
    split at h
    · rename_i minor rest hminor
      refine (mem_of_number hmajor hc).elim .inl fun hc => (hdot hc).elim .inr fun hc => ?_
      refine (mem_of_number hminor hc).elim .inl fun hc => ?_
      unfold parsePatch at h
      split at h
      · split at h
        · rename_i patch rest hpatch
          refine (hdot hc).elim .inr fun hc => ?_
          exact (mem_of_number hpatch hc).elim .inl (hpre h)
        · cases h
      · exact hpre h hc
    · cases h
  · cases h

/-- A version is read from a text without slashes only. -/
lemma slash_notMem_of_parse {s : String} {v : StrictVersion} (h : parse s = some v) :
    '/' ∉ s.toList := by
  intro hc
  rcases mem_of_parse h hc with hd | hd <;> exact absurd hd (by decide)

/-- The digits of a number bound it, by induction on the digits. -/
lemma ofDigitChars_lt {digits : List Char} (h : ∀ c ∈ digits, c.isDigit = true) (init : ℕ) :
    Nat.ofDigitChars 10 digits init < 10 ^ digits.length * (init + 1) := by
  induction digits generalizing init with
  | nil => simp
  | cons c cs ih =>
    rw [List.forall_mem_cons] at h
    have hc := (PyStr.isDigit_iff.mp h.1).2
    rw [Nat.ofDigitChars_cons, List.length_cons, Nat.pow_succ, Nat.mul_assoc]
    have hzero : '0'.toNat = 48 := rfl
    exact Nat.lt_of_lt_of_le (ih h.2 _) (Nat.mul_le_mul_left _ (by omega))

/-- A number that was read is short. -/
lemma short_of_number {cs rest : List Char} {n : ℕ} (h : number cs = some (n, rest)) :
    Short n := by
  rw [number] at h
  split_ifs at h with hdigits
  rw [not_or] at hdigits
  obtain rfl : Nat.ofDigitChars 10 (cs.takeWhile Char.isDigit) 0 = n :=
    congrArg Prod.fst (Option.some.inj h)
  have hlt := @ofDigitChars_lt (cs.takeWhile Char.isDigit)
    (List.all_eq_true.mp List.all_takeWhile) 0
  rw [Nat.zero_add, Nat.mul_one] at hlt
  have hpos := List.length_pos_iff.mpr hdigits.1
  exact Nat.le_trans ((Nat.length_toDigits_le_iff (by omega) hpos).mpr hlt)
    (Nat.not_lt.mp hdigits.2)

/-- The pre-release of a version that was read is short. -/
lemma isShort_of_parsePrerelease {major minor patch : ℕ} {cs : List Char} {v : StrictVersion}
    (hmajor : Short major) (hminor : Short minor) (hpatch : Short patch)
    (h : parsePrerelease major minor patch cs = some v) : v.IsShort := by
  unfold parsePrerelease at h
  split at h
  · split at h
    · rename_i n rest hn
      split_ifs at h
      obtain rfl := Option.some.inj h
      refine ⟨hmajor, hminor, hpatch, fun tag n' he => ?_⟩
      obtain ⟨-, rfl⟩ := Prod.mk.inj (Option.some.inj he)
      exact short_of_number hn
    · cases h
  · split at h
    · rename_i n rest hn
      split_ifs at h
      obtain rfl := Option.some.inj h
      refine ⟨hmajor, hminor, hpatch, fun tag n' he => ?_⟩
      obtain ⟨-, rfl⟩ := Prod.mk.inj (Option.some.inj he)
      exact short_of_number hn
    · cases h
  · split_ifs at h
    obtain rfl := Option.some.inj h
    exact ⟨hmajor, hminor, hpatch, fun _ _ he => by cases he⟩

/-- The numbers of a version that was read are short. -/
lemma isShort_of_parse {s : String} {v : StrictVersion} (h : parse s = some v) : v.IsShort := by
  have hzero : Short 0 := by simp [Short, PyStr.maxStrDigits]
  rw [parse] at h
  split at h
  · rename_i major cs hmajor
    split at h
    · rename_i minor rest hminor
      have hmajor' := short_of_number hmajor
      have hminor' := short_of_number hminor
      unfold parsePatch at h
      split at h
      · split at h
        · rename_i patch rest hpatch
          exact isShort_of_parsePrerelease hmajor' hminor' (short_of_number hpatch) h
        · cases h
      · exact isShort_of_parsePrerelease hmajor' hminor' hzero h
    · cases h
  · cases h

/-- The text of a short pre-release is read back. -/
lemma parsePrerelease_of_short {major minor patch : ℕ} {p : Option (PrereleaseTag × ℕ)}
    (h : ∀ tag n, p = some (tag, n) → Short n) :
    parsePrerelease major minor patch (prereleaseChars p) = some ⟨major, minor, patch, p⟩ := by
  rcases p with _ | ⟨tag, n⟩
  · rfl
  · have hn := @number_of_short n [] (by simp) (h tag n rfl)
    rw [List.append_nil] at hn
    cases tag <;> simp [prereleaseChars, tagChar, parsePrerelease, hn, atEnd]

/-- **The text of a version with short numbers** denotes that version. -/
theorem parse_str_of_isShort {v : StrictVersion} (hv : v.IsShort) : parse v.str = some v := by
  have hprerelease := @parsePrerelease_of_short v.major v.minor v.patch _ hv.prerelease
  rw [parse, toList_str, chars, number_of_short (by simp) hv.major]
  simp only [number_of_short head_patchChars_append hv.minor]
  by_cases hpatch : v.patch = 0
  · rw [patchChars, if_pos hpatch, List.nil_append, parsePatch]
    · rw [← hpatch]
      exact hprerelease
    · exact prereleaseChars_ne_dot
  · rw [patchChars, if_neg hpatch, List.cons_append, parsePatch,
      number_of_short head_prereleaseChars hv.patch]
    exact hprerelease

/-- **The text of a version that was read** denotes that version. -/
theorem parse_str_of_parse {s : String} {v : StrictVersion} (h : parse s = some v) :
    parse v.str = some v :=
  parse_str_of_isShort (isShort_of_parse h)

example : parse "1.0" = some ⟨1, 0, 0, none⟩ := by decide

example : parse "1.10.2b3\n" = some ⟨1, 10, 2, some (.beta, 3)⟩ := by decide

end StrictVersion
