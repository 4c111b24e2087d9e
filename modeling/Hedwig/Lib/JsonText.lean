import Hedwig.Lib.PyObject
import Hedwig.Lib.PyStr

set_option relaxedAutoImplicit false
set_option autoImplicit false

/-!
# The text of a JSON document

How `json` writes a value with the separators `,` and `:` and without indentation: literals,
numbers and string literals with nothing between them but the punctuation.  In a string literal
every character outside printable ASCII is escaped, control characters among them, so the text of
a document is a single line.

## Main definitions

* `JsonText.escapeChar`, `JsonText.quote` — string literals.
* `JsonText.text` — the text of a value, over how floats are written.

## Main results

* `JsonText.printable_text` — the text of a value contains no control character.
-/

namespace JsonText

/-- The quotation mark. -/
def quotationMark : Char := Char.ofNat 0x22

/-- The backslash. -/
def backslash : Char := Char.ofNat 0x5c

/-- The characters with an escape of their own, and the letter of that escape. -/
def shortEscapes : List (Char × Char) :=
  [(quotationMark, quotationMark), (backslash, backslash), (Char.ofNat 0x0a, 'n'),
    (Char.ofNat 0x0d, 'r'), (Char.ofNat 0x09, 't'), (Char.ofNat 0x0c, 'f'),
    (Char.ofNat 0x08, 'b')]

/-- The escape of a code unit. -/
def unicodeEscape (n : ℕ) : List Char :=
  [backslash, 'u', Nat.digitChar (n / 4096 % 16), Nat.digitChar (n / 256 % 16),
    Nat.digitChar (n / 16 % 16), Nat.digitChar (n % 16)]

/-- A character of a string literal.  A character outside the basic plane is escaped as two
surrogates. -/
def escapeChar (c : Char) : List Char :=
  match shortEscapes.lookup c with
  | some letter => [backslash, letter]
  | none =>
    if 0x20 ≤ c.toNat ∧ c.toNat ≤ 0x7e then [c]
    else if c.toNat < 0x10000 then unicodeEscape c.toNat
    else unicodeEscape (0xd800 + (c.toNat - 0x10000) / 0x400) ++
      unicodeEscape (0xdc00 + (c.toNat - 0x10000) % 0x400)

/-- A string literal. -/
def quote (s : String) : List Char :=
  quotationMark :: (s.toList.flatMap escapeChar ++ [quotationMark])

/-- Texts with a comma between them. -/
def commas : List (List Char) → List Char
  | [] => []
  | [x] => x
  | x :: xs => x ++ ',' :: commas xs

mutual

/-- The text of a value, where `number` writes a float.  A value that is no JSON value has no
text. -/
def text (number : String → List Char) : PyObj → List Char
  | .none => "null".toList
  | .bool true => "true".toList
  | .bool false => "false".toList
  | .int i => (toString i).toList
  | .float t => number t
  | .str s => quote s
  | .list items => '[' :: (commas (texts number items) ++ [']'])
  | .dict fields => Char.ofNat 0x7b :: (commas (fieldTexts number fields) ++ [Char.ofNat 0x7d])
  | .decimal _ | .uuid _ | .other _ => []

/-- The texts of the items of a list. -/
def texts (number : String → List Char) : List PyObj → List (List Char)
  | [] => []
  | x :: xs => text number x :: texts number xs

/-- The texts of the fields of an object. -/
def fieldTexts (number : String → List Char) : List (PyKey × PyObj) → List (List Char)
  | [] => []
  | (k, v) :: rest => (quote k.text ++ ':' :: text number v) :: fieldTexts number rest

end

/-- A text without control characters. -/
def Printable (cs : List Char) : Prop := ∀ c ∈ cs, 0x20 ≤ c.toNat

/-- The escape of a code unit is printable. -/
lemma printable_unicodeEscape (n : ℕ) : Printable (unicodeEscape n) := by
  have hdigit : ∀ m < 16, 0x20 ≤ (Nat.digitChar m).toNat := by decide
  intro c hc
  simp only [unicodeEscape, List.mem_cons, List.not_mem_nil, or_false] at hc
  rcases hc with rfl | rfl | rfl | rfl | rfl | rfl
  · decide
  · decide
  all_goals exact hdigit _ (Nat.mod_lt _ (by omega))

/-- Printable characters, by computing. -/
lemma printable_of_all {cs : List Char} (h : (cs.all fun c => 0x20 ≤ c.toNat) = true) :
    Printable cs := fun c hc => of_decide_eq_true (List.all_eq_true.mp h c hc)

/-- An escaped character is printable. -/
lemma printable_escapeChar (c : Char) : Printable (escapeChar c) := by
  rw [escapeChar]
  split
  · rename_i letter hletter
    have hall : ∀ p ∈ shortEscapes, Printable [backslash, p.2] := fun p hp =>
      printable_of_all (List.all_eq_true.mp (show (shortEscapes.all fun p =>
        [backslash, p.2].all fun c => 0x20 ≤ c.toNat) = true by decide) p hp)
    obtain ⟨before, after, hsplit, -⟩ := List.lookup_eq_some_iff.mp hletter
    exact hall (c, letter) (by simp [hsplit])
  · split_ifs with hascii hbmp
    · intro x hx
      rw [List.mem_singleton.mp hx]
      exact hascii.1
    · exact printable_unicodeEscape _
    · exact List.forall_mem_append.mpr ⟨printable_unicodeEscape _, printable_unicodeEscape _⟩

/-- A string literal is printable. -/
lemma printable_quote (s : String) : Printable (quote s) := by
  have hmark : 0x20 ≤ quotationMark.toNat := by decide
  refine List.forall_mem_cons.mpr ⟨hmark, List.forall_mem_append.mpr ⟨fun x hx => ?_, ?_⟩⟩
  · obtain ⟨c, -, hc⟩ := List.mem_flatMap.mp hx
    exact printable_escapeChar c x hc
  · exact List.forall_mem_singleton.mpr hmark

/-- Commas are printable. -/
lemma printable_commas {xs : List (List Char)} (h : ∀ x ∈ xs, Printable x) :
    Printable (commas xs) := by
  induction xs with
  | nil => exact fun _ hc => absurd hc List.not_mem_nil
  | cons x xs ih =>
    rw [List.forall_mem_cons] at h
    cases xs with
    | nil => exact h.1
    | cons y ys =>
      have hcomma : 0x20 ≤ ','.toNat := by decide
      exact List.forall_mem_append.mpr ⟨h.1, List.forall_mem_cons.mpr ⟨hcomma, ih h.2⟩⟩

/-- The decimal form of an integer is printable. -/
lemma printable_toString (i : ℤ) : Printable (toString i).toList := by
  have hnat : ∀ n : ℕ, Printable n.repr.toList := by
    intro n c hc
    rw [Nat.toList_repr] at hc
    have hdigit := PyStr.isDigit_iff.mp (Nat.isDigit_of_mem_toDigits (by omega) (by omega) hc)
    omega
  cases i with
  | ofNat n => exact hnat n
  | negSucc n =>
    have htext : (toString (Int.negSucc n)).toList = '-' :: n.succ.repr.toList := by
      change ("-" ++ n.succ.repr).toList = _
      rw [String.toList_append]
      rfl
    rw [htext]
    exact List.forall_mem_cons.mpr ⟨by decide, hnat _⟩

mutual

/-- **The text of a value** contains no control character, if no float does.

**Proof sketch.**  One case for each kind of value, with the lemmas on lists and dicts by mutual
recursion: the brackets are printable, and so are the texts between the commas. -/
theorem printable_text {number : String → List Char} (hnumber : ∀ t, Printable (number t)) :
    ∀ o : PyObj, Printable (text number o)
  | .none | .bool true | .bool false => by
    rw [text]
    exact printable_of_all (by decide)
  | .int i => by
    rw [text]
    exact printable_toString i
  | .float t => by
    rw [text]
    exact hnumber t
  | .str s => by
    rw [text]
    exact printable_quote s
  | .list items => by
    rw [text]
    exact List.forall_mem_cons.mpr ⟨by decide, List.forall_mem_append.mpr
      ⟨printable_commas (printable_texts hnumber items),
        List.forall_mem_singleton.mpr (by decide)⟩⟩
  | .dict fields => by
    rw [text]
    exact List.forall_mem_cons.mpr ⟨by decide, List.forall_mem_append.mpr
      ⟨printable_commas (printable_fieldTexts hnumber fields),
        List.forall_mem_singleton.mpr (by decide)⟩⟩
  | .decimal _ | .uuid _ | .other _ => by
    rw [text]
    exact fun _ hc => absurd hc List.not_mem_nil

/-- So do the texts of the items of a list. -/
theorem printable_texts {number : String → List Char} (hnumber : ∀ t, Printable (number t)) :
    ∀ items : List PyObj, ∀ x ∈ texts number items, Printable x
  | [] => fun _ hx => absurd hx List.not_mem_nil
  | o :: rest => by
    rw [texts]
    exact List.forall_mem_cons.mpr ⟨printable_text hnumber o, printable_texts hnumber rest⟩

/-- And those of the fields of an object. -/
theorem printable_fieldTexts {number : String → List Char} (hnumber : ∀ t, Printable (number t)) :
    ∀ fields : List (PyKey × PyObj), ∀ x ∈ fieldTexts number fields, Printable x
  | [] => fun _ hx => absurd hx List.not_mem_nil
  | (k, o) :: rest => by
    rw [fieldTexts]
    refine List.forall_mem_cons.mpr ⟨?_, printable_fieldTexts hnumber rest⟩
    exact List.forall_mem_append.mpr
      ⟨printable_quote _, List.forall_mem_cons.mpr ⟨by decide, printable_text hnumber o⟩⟩

end

example : text String.toList (.dict [(.str "a\n", .list [.int (-1), .none])]) =
    "\x7b\"a\\n\":[-1,null]\x7d".toList := by decide

end JsonText
