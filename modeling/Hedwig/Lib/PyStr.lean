import Mathlib.Data.Int.Notation
import Mathlib.Data.List.Basic

set_option relaxedAutoImplicit false
set_option autoImplicit false

/-!
# Strings

The string operations of Python that the program relies on: prefixes, UTF-8, decimal numbers, and
`str.format`.

## Main definitions

* `PyStr.startsWith` — `s.startswith(prefix)`; `PyStr.contains` — `t in s`.
* `PyStr.encode`, `PyStr.decode?` — UTF-8.
* `PyStr.int?` — `int(s)`: white space around the number, a sign, underscores between digits, and
  decimal digits of any script.
* `PyStr.canPrint` — whether `str(i)` prints an integer.
* `PyStr.format` — `fmt.format(...)`, with the evaluation of a replacement field as a parameter.

## Main results

* `PyStr.decode?_encode` — UTF-8 decoding inverts encoding.
* `PyStr.int?_toString` — a printed integer is read back as itself, or not at all.
* `PyStr.format_append_eq_ok` — formatting a text with braces that end in plain text can only go
  on in plain text.

## Design

`int(s)` refuses more than `maxStrDigits` digits, and `str(i)` refuses to print them: the default
limit of the interpreter.  `int` does not strip all that `str.strip` does: the separators U+001C to
U+001F stay, and are no digits.
-/

namespace PyStr

/-! ## Prefixes and parts -/

/-- `s.startswith(p)`. -/
def startsWith (s p : String) : Bool := p.toList.isPrefixOf s.toList

/-- `t in s`. -/
def contains (s t : String) : Bool := s.toList.tails.any t.toList.isPrefixOf

/-! ## UTF-8 -/

/-- `s.encode()`. -/
def encode (s : String) : List UInt8 := s.toUTF8.data.toList

/-- `b.decode()`, `none` for `UnicodeDecodeError`. -/
def decode? (b : List UInt8) : Option String := String.fromUTF8? ⟨b.toArray⟩

/-- Decoding inverts encoding. -/
@[simp] lemma decode?_encode (s : String) : decode? (encode s) = some s := by
  have hbytes : (⟨(encode s).toArray⟩ : ByteArray) = s.toByteArray := rfl
  rw [decode?, hbytes, String.fromUTF8?, dif_pos s.isValidUTF8]
  rfl

/-- Encoding loses nothing. -/
lemma encode_injective : Function.Injective encode := by
  intro s t h
  have hs := decode?_encode s
  rw [h, decode?_encode] at hs
  exact (Option.some.inj hs).symm

/-! ## Decimal numbers -/

/-- The most digits that `int(s)` reads and `str(i)` prints. -/
def maxStrDigits : ℕ := 4300

/-- Whether `str(i)` prints the integer. -/
def canPrint (i : ℤ) : Bool := (Nat.toDigits 10 i.natAbs).length ≤ maxStrDigits

/-- The zeros of the decimal digits (category Nd), each followed by the digits one to nine. -/
def digitZeros : List ℕ :=
  [0x30, 0x660, 0x6F0, 0x7C0, 0x966, 0x9E6, 0xA66, 0xAE6, 0xB66, 0xBE6, 0xC66, 0xCE6, 0xD66,
    0xDE6, 0xE50, 0xED0, 0xF20, 0x1040, 0x1090, 0x17E0, 0x1810, 0x1946, 0x19D0, 0x1A80, 0x1A90,
    0x1B50, 0x1BB0, 0x1C40, 0x1C50, 0xA620, 0xA8D0, 0xA900, 0xA9D0, 0xA9F0, 0xAA50, 0xABF0,
    0xFF10, 0x104A0, 0x10D30, 0x11066, 0x110F0, 0x11136, 0x111D0, 0x112F0, 0x11450, 0x114D0,
    0x11650, 0x116C0, 0x11730, 0x118E0, 0x11950, 0x11C50, 0x11D50, 0x11DA0, 0x11F50, 0x16A60,
    0x16AC0, 0x16B50, 0x1D7CE, 0x1D7D8, 0x1D7E2, 0x1D7EC, 0x1D7F6, 0x1E140, 0x1E2F0, 0x1E4F0,
    0x1E950, 0x1FBF0]

/-- `unicodedata.decimal(c)`. -/
def digitValue? (c : Char) : Option ℕ :=
  (digitZeros.find? fun z => z ≤ c.toNat ∧ c.toNat < z + 10).map fun z => c.toNat - z

/-- The white space around a number: in ASCII the space, the tab and the line ends, and beyond it
what `isspace` accepts. -/
def isSpace (c : Char) : Bool :=
  let n := c.toNat
  (9 ≤ n ∧ n ≤ 13) ∨ n = 32 ∨ n = 0x85 ∨ n = 0xA0 ∨ n = 0x1680 ∨
    (0x2000 ≤ n ∧ n ≤ 0x200A) ∨ n = 0x2028 ∨ n = 0x2029 ∨ n = 0x202F ∨ n = 0x205F ∨ n = 0x3000

/-- The characters of a number without the white space around it. -/
def strip (cs : List Char) : List Char :=
  ((cs.dropWhile isSpace).reverse.dropWhile isSpace).reverse

/-- Digits, with single underscores between them. -/
def readDigits : List Char → Option (List ℕ)
  | [] => none
  | c :: cs =>
    match digitValue? c, cs with
    | none, _ => none
    | some d, [] => some [d]
    | some d, '_' :: rest => (readDigits rest).map (d :: ·)
    | some d, cs => (readDigits cs).map (d :: ·)

/-- The number that digits stand for. -/
def ofDigits (ds : List ℕ) : ℕ := ds.foldl (fun n d => 10 * n + d) 0

/-- The value of a string of digits. -/
def nat? (cs : List Char) : Option ℕ :=
  match readDigits cs with
  | none => none
  | some ds => if ds.length ≤ maxStrDigits then some (ofDigits ds) else none

/-- `int(s)`, `none` for `ValueError`. -/
def int? (s : String) : Option ℤ :=
  match strip s.toList with
  | '-' :: cs => (nat? cs).map fun n : ℕ => -(n : ℤ)
  | '+' :: cs => (nat? cs).map fun n : ℕ => (n : ℤ)
  | cs => (nat? cs).map fun n : ℕ => (n : ℤ)

/-- The code point of an ASCII digit. -/
lemma isDigit_iff {c : Char} : c.isDigit = true ↔ 48 ≤ c.toNat ∧ c.toNat ≤ 57 := by
  simp only [Char.isDigit, Bool.and_eq_true, decide_eq_true_eq, ge_iff_le, UInt32.le_iff_toNat_le]
  rfl

/-- An ASCII digit has its own value. -/
lemma digitValue?_of_isDigit {c : Char} (h : c.isDigit = true) :
    digitValue? c = some (c.toNat - 48) := by
  have hc := isDigit_iff.mp h
  have hz : (0x30 ≤ c.toNat ∧ c.toNat < 0x30 + 10) := by omega
  rw [digitValue?, digitZeros, List.find?_cons_of_pos (by simpa using hz)]
  rfl

/-- An ASCII digit is not white space. -/
lemma isSpace_of_isDigit {c : Char} (h : c.isDigit = true) : isSpace c = false := by
  have hc := isDigit_iff.mp h
  simp only [isSpace, decide_eq_false_iff_not]
  omega

/-- Without white space there is nothing to strip. -/
lemma strip_eq_self {cs : List Char} (h : ∀ c ∈ cs, isSpace c = false) : strip cs = cs := by
  have hdrop : ∀ l : List Char, (∀ c ∈ l, isSpace c = false) → l.dropWhile isSpace = l := by
    intro l hl
    cases l with
    | nil => rfl
    | cons c l => rw [List.dropWhile_cons_of_neg (by simp [hl c])]
  rw [strip, hdrop cs h, hdrop cs.reverse (by simpa using h), List.reverse_reverse]

/-- ASCII digits are read one by one. -/
lemma readDigits_of_isDigit {cs : List Char} (h : ∀ c ∈ cs, c.isDigit = true) (hne : cs ≠ []) :
    readDigits cs = some (cs.map fun c => c.toNat - 48) := by
  induction cs with
  | nil => exact absurd rfl hne
  | cons c cs ih =>
    have hc := digitValue?_of_isDigit (h c List.mem_cons_self)
    cases cs with
    | nil => simp [readDigits, hc]
    | cons c' cs =>
      have hc' : c' ≠ '_' := by
        rintro rfl
        exact absurd (h '_' (by simp)) (by decide)
      have hrest := ih (fun x hx => h x (List.mem_cons_of_mem _ hx)) (by simp)
      simp [readDigits, hc, hrest, hc']

/-- A printed natural number is read back as itself, or not at all. -/
lemma nat?_toDigits {n m : ℕ} (h : nat? (Nat.toDigits 10 n) = some m) : m = n := by
  have hdigits : ∀ c ∈ Nat.toDigits 10 n, c.isDigit = true := fun c hc =>
    Nat.isDigit_of_mem_toDigits (by omega) (by omega) hc
  rw [nat?, readDigits_of_isDigit hdigits Nat.toDigits_ne_nil] at h
  have hval : ofDigits ((Nat.toDigits 10 n).map fun c => c.toNat - 48) = n := by
    have hfold := Nat.ofDigitChars_ten_toDigits (n := n)
    rw [Nat.ofDigitChars_eq_foldl] at hfold
    rw [ofDigits, List.foldl_map]
    exact hfold
  simp only [hval] at h
  split_ifs at h
  exact (Option.some.inj h).symm

/-- A printed integer is read back as itself, or not at all. -/
lemma int?_toString {i j : ℤ} (h : int? (toString i) = some j) : j = i := by
  have hspace : ∀ n : ℕ, ∀ c ∈ Nat.toDigits 10 n, isSpace c = false := fun n c hc =>
    isSpace_of_isDigit (Nat.isDigit_of_mem_toDigits (by omega) (by omega) hc)
  rw [Int.toString_eq_repr, Int.repr_eq_if] at h
  split_ifs at h with hi
  · rw [int?, Nat.toList_repr, strip_eq_self (hspace _)] at h
    -- the first character is a digit, so it is no sign
    obtain ⟨n, hn, rfl⟩ : ∃ n, nat? (Nat.toDigits 10 i.toNat) = some n ∧ (n : ℤ) = j := by
      split at h
      · rename_i cs hcs
        have hd := Nat.isDigit_of_mem_toDigits (b := 10) (n := i.toNat) (c := '-') (by omega)
          (by omega) (by simp [hcs])
        exact absurd hd (by decide)
      · rename_i cs hcs
        have hd := Nat.isDigit_of_mem_toDigits (b := 10) (n := i.toNat) (c := '+') (by omega)
          (by omega) (by simp [hcs])
        exact absurd hd (by decide)
      · exact Option.map_eq_some_iff.mp h
    have := nat?_toDigits hn
    omega
  · have hminus : ∀ c ∈ '-' :: Nat.toDigits 10 (-i).toNat, isSpace c = false := by
      intro c hc
      rcases List.mem_cons.mp hc with rfl | hc
      · decide
      · exact hspace _ c hc
    have hlist : ("-" ++ (-i).toNat.repr).toList = '-' :: Nat.toDigits 10 (-i).toNat := by
      rw [String.toList_append, Nat.toList_repr]
      rfl
    rw [int?, hlist, strip_eq_self hminus] at h
    obtain ⟨n, hn, rfl⟩ := Option.map_eq_some_iff.mp h
    have := nat?_toDigits hn
    omega

/-! ## Formatting -/

/-- Where the scan of a format string stands: in plain text, after a brace that may be doubled, or
inside a replacement field, in its name, in an index between brackets, or in its conversion and
format spec, whose nested braces are counted. -/
inductive FormatMode
  | text
  | openBrace
  | closeBrace
  | name (seen : List Char)
  | index (seen : List Char)
  | spec (depth : ℕ) (seen : List Char)

section Format

variable {ε : Type} (malformed : ε) (field : String → Except ε String)

/-- One character inside the name of a replacement field. -/
def nameStep (out seen : List Char) (c : Char) : Except ε (FormatMode × List Char) :=
  if c = '\x7b' then .error malformed
  else if c = '\x7d' then
    match field (String.ofList seen) with
    | .error e => .error e
    | .ok value => .ok (.text, out ++ value.toList)
  else if c = '[' then .ok (.index (seen ++ [c]), out)
  else if c = ':' ∨ c = '!' then .ok (.spec 0 (seen ++ [c]), out)
  else .ok (.name (seen ++ [c]), out)

/-- One character of a format string. -/
def formatStep (s : FormatMode × List Char) (c : Char) : Except ε (FormatMode × List Char) :=
  match s with
  | (.text, out) =>
    if c = '\x7b' then .ok (.openBrace, out)
    else if c = '\x7d' then .ok (.closeBrace, out)
    else .ok (.text, out ++ [c])
  | (.openBrace, out) =>
    if c = '\x7b' then .ok (.text, out ++ [c]) else nameStep malformed field out [] c
  | (.closeBrace, out) => if c = '\x7d' then .ok (.text, out ++ [c]) else .error malformed
  | (.name seen, out) => nameStep malformed field out seen c
  | (.index seen, out) =>
    if c = ']' then .ok (.name (seen ++ [c]), out) else .ok (.index (seen ++ [c]), out)
  | (.spec depth seen, out) =>
    if c = '\x7b' then .ok (.spec (depth + 1) (seen ++ [c]), out)
    else if c = '\x7d' then
      match depth with
      | 0 =>
        match field (String.ofList seen) with
        | .error e => .error e
        | .ok value => .ok (.text, out ++ value.toList)
      | depth + 1 => .ok (.spec depth (seen ++ [c]), out)
    else .ok (.spec depth (seen ++ [c]), out)

/-- The characters of a format string, one after the other. -/
def formatRun (s : FormatMode × List Char) (cs : List Char) :
    Except ε (FormatMode × List Char) :=
  cs.foldlM (formatStep malformed field) s

/-- `fmt.format(...)`: `field` evaluates a replacement field, and `malformed` is the error for
unbalanced braces. -/
def format (fmt : String) : Except ε String :=
  match formatRun malformed field (.text, []) fmt.toList with
  | .error e => .error e
  | .ok (.text, out) => .ok (String.ofList out)
  | .ok _ => .error malformed

/-- A piece of a format string: plain text, or a replacement field that is only a name. -/
inductive Piece
  | text (cs : List Char)
  | field (name : List Char)

/-- A character without a meaning in a format string. -/
def isPlain (c : Char) : Bool :=
  c ≠ '\x7b' ∧ c ≠ '\x7d' ∧ c ≠ '[' ∧ c ≠ ']' ∧ c ≠ ':' ∧ c ≠ '!'

/-- The characters of a piece. -/
def Piece.chars : Piece → List Char
  | .text cs => cs
  | .field name => '\x7b' :: name ++ ['\x7d']

/-- Only plain characters besides the braces, and a name that is not empty. -/
def Piece.Plain : Piece → Prop
  | .text cs => ∀ c ∈ cs, isPlain c = true
  | .field name => name ≠ [] ∧ ∀ c ∈ name, isPlain c = true

instance : DecidablePred Piece.Plain
  | .text cs => List.decidableBAll _ cs
  | .field name => @instDecidableAnd _ _ inferInstance (List.decidableBAll _ name)

/-- What the pieces format to. -/
def evalPieces : List Piece → Except ε (List Char)
  | [] => .ok []
  | .text cs :: ps => (evalPieces ps).map (cs ++ ·)
  | .field name :: ps =>
    match field (String.ofList name) with
    | .error e => .error e
    | .ok value => (evalPieces ps).map (value.toList ++ ·)

variable {malformed field} {out : List Char}

/-- A character that is scanned without an error. -/
lemma formatRun_cons {s s' : FormatMode × List Char} {c : Char}
    (h : formatStep malformed field s c = .ok s') (cs : List Char) :
    formatRun malformed field s (c :: cs) = formatRun malformed field s' cs := by
  rw [formatRun, List.foldlM_cons, h]
  rfl

/-- A text that is scanned without an error. -/
lemma formatRun_append {s s' : FormatMode × List Char} {cs : List Char}
    (h : formatRun malformed field s cs = .ok s') (ds : List Char) :
    formatRun malformed field s (cs ++ ds) = formatRun malformed field s' ds := by
  rw [formatRun] at h
  rw [formatRun, List.foldlM_append, h]
  rfl

/-- The scan of a text that ends without an error has none in its first part. -/
lemma formatRun_append_eq_ok {s s' : FormatMode × List Char} {cs ds : List Char}
    (h : formatRun malformed field s (cs ++ ds) = .ok s') :
    ∃ t, formatRun malformed field s cs = .ok t ∧ formatRun malformed field t ds = .ok s' := by
  cases ht : formatRun malformed field s cs with
  | error e =>
    rw [formatRun] at h ht
    rw [List.foldlM_append, ht] at h
    cases h
  | ok t => exact ⟨t, rfl, by rw [← formatRun_append ht ds, h]⟩

lemma isPlain_iff {c : Char} :
    isPlain c = true ↔ c ≠ '\x7b' ∧ c ≠ '\x7d' ∧ c ≠ '[' ∧ c ≠ ']' ∧ c ≠ ':' ∧ c ≠ '!' := by
  simp [isPlain]

/-- Text without braces is copied. -/
lemma formatRun_text {cs : List Char} (h : ∀ c ∈ cs, c ≠ '\x7b' ∧ c ≠ '\x7d') :
    formatRun malformed field (.text, out) cs = .ok (.text, out ++ cs) := by
  induction cs generalizing out with
  | nil => simp [formatRun, pure, Except.pure]
  | cons c cs ih =>
    have hstep : formatStep malformed field (.text, out) c = .ok (.text, out ++ [c]) := by
      simp [formatStep, h c List.mem_cons_self]
    rw [formatRun_cons hstep, ih fun x hx => h x (List.mem_cons_of_mem _ hx)]
    simp

/-- A plain name is collected. -/
lemma formatRun_name {cs seen : List Char} (h : ∀ c ∈ cs, isPlain c = true) :
    formatRun malformed field (.name seen, out) cs = .ok (.name (seen ++ cs), out) := by
  induction cs generalizing seen with
  | nil => simp [formatRun, pure, Except.pure]
  | cons c cs ih =>
    have hc := isPlain_iff.mp (h c List.mem_cons_self)
    have hstep : formatStep malformed field (.name seen, out) c =
        .ok (.name (seen ++ [c]), out) := by
      simp [formatStep, nameStep, hc]
    rw [formatRun_cons hstep, ih fun x hx => h x (List.mem_cons_of_mem _ hx)]
    simp

/-- The brace that ends a name. -/
lemma formatRun_closeBrace (seen : List Char) :
    formatRun malformed field (.name seen, out) ['\x7d'] =
      (field (String.ofList seen)).map fun value => (.text, out ++ value.toList) := by
  have hstep : formatStep malformed field (.name seen, out) '\x7d' =
      (field (String.ofList seen)).map fun value => (.text, out ++ value.toList) := by
    simp only [formatStep, nameStep]
    cases field (String.ofList seen) <;> rfl
  rw [formatRun, List.foldlM_cons, hstep]
  cases field (String.ofList seen) <;> rfl

/-- A replacement field is evaluated. -/
lemma formatRun_field {name : List Char} (h : (Piece.field name).Plain) :
    formatRun malformed field (.text, out) (Piece.field name).chars =
      (field (String.ofList name)).map fun value => (.text, out ++ value.toList) := by
  obtain ⟨hne, hplain⟩ := h
  obtain ⟨c, cs, rfl⟩ := List.exists_cons_of_ne_nil hne
  have hc := isPlain_iff.mp (hplain c List.mem_cons_self)
  have hopen : formatStep malformed field (.text, out) '\x7b' = .ok (.openBrace, out) := rfl
  have hname : formatStep malformed field (.openBrace, out) c = .ok (.name [c], out) := by
    simp [formatStep, nameStep, hc]
  have hrest : formatRun malformed field (.name [c], out) cs = .ok (.name ([c] ++ cs), out) :=
    formatRun_name fun x hx => hplain x (List.mem_cons_of_mem _ hx)
  rw [Piece.chars, List.cons_append, List.cons_append, formatRun_cons hopen, formatRun_cons hname,
    formatRun_append hrest]
  exact formatRun_closeBrace (c :: cs)

/-- The pieces are formatted one after the other, by induction on the pieces. -/
lemma formatRun_pieces {ps : List Piece} (h : ∀ p ∈ ps, p.Plain) :
    formatRun malformed field (.text, out) (ps.flatMap Piece.chars) =
      (evalPieces field ps).map fun cs => (.text, out ++ cs) := by
  induction ps generalizing out with
  | nil => simp [formatRun, evalPieces, pure, Except.pure, Except.map]
  | cons p ps ih =>
    have hps := fun q hq => h q (List.mem_cons_of_mem _ hq)
    have hp := h p List.mem_cons_self
    rw [List.flatMap_cons]
    cases p with
    | text cs =>
      have hbraces : ∀ c ∈ cs, c ≠ '\x7b' ∧ c ≠ '\x7d' := fun c hc =>
        ⟨(isPlain_iff.mp (hp c hc)).1, (isPlain_iff.mp (hp c hc)).2.1⟩
      rw [show (Piece.text cs).chars = cs from rfl, formatRun_append (formatRun_text hbraces),
        ih hps, evalPieces]
      cases evalPieces field ps <;> simp [Except.map]
    | field name =>
      have hfield : formatRun malformed field (.text, out) (Piece.field name).chars =
          (field (String.ofList name)).map fun value => (.text, out ++ value.toList) :=
        formatRun_field hp
      cases hv : field (String.ofList name) with
      | error e =>
        rw [hv] at hfield
        rw [formatRun] at hfield
        rw [formatRun, List.foldlM_append, hfield]
        simp [evalPieces, hv, Except.map, bind, Except.bind]
      | ok value =>
        rw [hv] at hfield
        rw [formatRun_append hfield, ih hps, evalPieces, hv]
        cases evalPieces field ps <;> simp [Except.map]

/-- A format string of text without braces and plain pieces. -/
lemma format_text_pieces {cs : List Char} (hcs : ∀ c ∈ cs, c ≠ '\x7b' ∧ c ≠ '\x7d')
    {ps : List Piece} (h : ∀ p ∈ ps, p.Plain) {fmt : String}
    (hfmt : fmt.toList = cs ++ ps.flatMap Piece.chars) :
    format malformed field fmt =
      (evalPieces field ps).map fun values => String.ofList (cs ++ values) := by
  rw [format, hfmt, formatRun_append (formatRun_text hcs), formatRun_pieces h]
  cases evalPieces field ps <;> simp [Except.map]

/-- A format string of plain pieces. -/
lemma format_pieces {ps : List Piece} (h : ∀ p ∈ ps, p.Plain) {fmt : String}
    (hfmt : fmt.toList = ps.flatMap Piece.chars) :
    format malformed field fmt = (evalPieces field ps).map String.ofList :=
  format_text_pieces (fun _ hc => absurd hc List.not_mem_nil) h hfmt

/-- A character is refused as malformed, or because a replacement field is. -/
lemma formatStep_eq_error {s : FormatMode × List Char} {c : Char} {e : ε}
    (h : formatStep malformed field s c = .error e) :
    e = malformed ∨ ∃ name, field name = .error e := by
  have hfield : ∀ (out seen : List Char),
      (match field (String.ofList seen) with
        | .error e => .error e
        | .ok value => .ok (FormatMode.text, out ++ value.toList)) =
        (.error e : Except ε (FormatMode × List Char)) →
      ∃ name, field name = .error e := by
    intro out seen hm
    split at hm
    · rename_i e' he'
      exact ⟨_, he'.trans (congrArg _ (Except.error.inj hm))⟩
    · cases hm
  have hname : ∀ out seen, nameStep malformed field out seen c = .error e →
      e = malformed ∨ ∃ name, field name = .error e := by
    intro out seen hm
    rw [nameStep] at hm
    split_ifs at hm
    · exact .inl (Except.error.inj hm).symm
    · exact .inr (hfield out seen hm)
  obtain ⟨m, out⟩ := s
  cases m with
  | text =>
    rw [formatStep] at h
    split_ifs at h
  | openBrace =>
    rw [formatStep] at h
    split_ifs at h
    exact hname out [] h
  | closeBrace =>
    rw [formatStep] at h
    split_ifs at h
    exact .inl (Except.error.inj h).symm
  | name seen => exact hname out seen h
  | index seen =>
    rw [formatStep] at h
    split_ifs at h
  | spec depth seen =>
    cases depth with
    | zero =>
      rw [formatStep] at h
      split_ifs at h
      exact .inr (hfield out seen h)
    | succ depth =>
      rw [formatStep] at h
      split_ifs at h

/-- A format string is refused as malformed, or because a replacement field is. -/
lemma format_eq_error {fmt : String} {e : ε} (h : format malformed field fmt = .error e) :
    e = malformed ∨ ∃ name, field name = .error e := by
  have hrun : ∀ (cs : List Char) (s : FormatMode × List Char),
      formatRun malformed field s cs = .error e →
      e = malformed ∨ ∃ name, field name = .error e := by
    intro cs
    induction cs with
    | nil =>
      intro s hs
      cases hs
    | cons c cs ih =>
      intro s hs
      cases hstep : formatStep malformed field s c with
      | error e' =>
        rw [formatRun, List.foldlM_cons, hstep] at hs
        obtain rfl : e' = e := Except.error.inj hs
        exact formatStep_eq_error hstep
      | ok s' =>
        rw [formatRun_cons hstep] at hs
        exact ih s' hs
  rw [format] at h
  split at h
  · rename_i e' he'
    obtain rfl : e' = e := Except.error.inj h
    exact hrun _ _ he'
  · cases h
  · exact .inl (Except.error.inj h).symm

/-- Inside a replacement field. -/
def FormatMode.Inside : FormatMode → Prop
  | .name _ | .index _ | .spec _ _ => True
  | _ => False

/-- Plain text does not end a replacement field. -/
lemma inside_text {cs : List Char} (h : ∀ c ∈ cs, isPlain c = true) {m m' : FormatMode}
    {out' : List Char} (hm : m.Inside)
    (hrun : formatRun malformed field (m, out) cs = .ok (m', out')) : m'.Inside := by
  induction cs generalizing m out with
  | nil =>
    obtain ⟨rfl, -⟩ : m = m' ∧ out = out' := by
      simpa [formatRun, pure, Except.pure] using hrun
    exact hm
  | cons c cs ih =>
    have hc := isPlain_iff.mp (h c List.mem_cons_self)
    have hstep : ∃ m₁, m₁.Inside ∧ formatStep malformed field (m, out) c = .ok (m₁, out) := by
      cases m with
      | name seen => exact ⟨.name (seen ++ [c]), trivial, by simp [formatStep, nameStep, hc]⟩
      | index seen => exact ⟨.index (seen ++ [c]), trivial, by simp [formatStep, hc]⟩
      | spec depth seen => exact ⟨.spec depth (seen ++ [c]), trivial, by simp [formatStep, hc]⟩
      | text => exact hm.elim
      | openBrace => exact hm.elim
      | closeBrace => exact hm.elim
    obtain ⟨m₁, hm₁, hstep⟩ := hstep
    rw [formatRun_cons hstep] at hrun
    exact ih (fun x hx => h x (List.mem_cons_of_mem _ hx)) hm₁ hrun

/-- Text without the closing bracket does not end an index. -/
lemma formatRun_index {cs seen : List Char} (h : ∀ c ∈ cs, c ≠ ']') :
    formatRun malformed field (.index seen, out) cs = .ok (.index (seen ++ cs), out) := by
  induction cs generalizing seen with
  | nil => simp [formatRun, pure, Except.pure]
  | cons c cs ih =>
    have hstep : formatStep malformed field (.index seen, out) c =
        .ok (.index (seen ++ [c]), out) := by
      simp [formatStep, h c List.mem_cons_self]
    rw [formatRun_cons hstep, ih fun x hx => h x (List.mem_cons_of_mem _ hx)]
    simp

/-- Plain text in a format spec is collected. -/
lemma formatRun_spec {cs seen : List Char} {depth : ℕ} (h : ∀ c ∈ cs, isPlain c = true) :
    formatRun malformed field (.spec depth seen, out) cs =
      .ok (.spec depth (seen ++ cs), out) := by
  induction cs generalizing seen with
  | nil => simp [formatRun, pure, Except.pure]
  | cons c cs ih =>
    have hc := isPlain_iff.mp (h c List.mem_cons_self)
    have hstep : formatStep malformed field (.spec depth seen, out) c =
        .ok (.spec depth (seen ++ [c]), out) := by
      simp [formatStep, hc]
    rw [formatRun_cons hstep, ih fun x hx => h x (List.mem_cons_of_mem _ hx)]
    simp

/-- A replacement field inside another one does not end that one. -/
lemma inside_field {name : List Char} (h : (Piece.field name).Plain) {m m' : FormatMode}
    {out' : List Char} (hm : m.Inside)
    (hrun : formatRun malformed field (m, out) (Piece.field name).chars = .ok (m', out')) :
    m'.Inside := by
  rw [Piece.chars] at hrun
  cases m with
  | name seen =>
    -- a brace inside a name is an error
    rw [formatRun, List.cons_append, List.foldlM_cons] at hrun
    cases hrun
  | index seen =>
    have hbracket : ∀ c ∈ '\x7b' :: name ++ ['\x7d'], c ≠ ']' := by
      intro c hc
      have hcases : c = '\x7b' ∨ c ∈ name ∨ c = '\x7d' := by simpa using hc
      rcases hcases with rfl | hc | rfl
      · decide
      · exact (isPlain_iff.mp (h.2 c hc)).2.2.2.1
      · decide
    rw [formatRun_index hbracket] at hrun
    cases hrun
    trivial
  | spec depth seen =>
    have hopen : formatStep malformed field (.spec depth seen, out) '\x7b' =
        .ok (.spec (depth + 1) (seen ++ ['\x7b']), out) := rfl
    rw [List.cons_append, formatRun_cons hopen, formatRun_append (formatRun_spec h.2)] at hrun
    cases hrun
    trivial
  | text => exact hm.elim
  | openBrace => exact hm.elim
  | closeBrace => exact hm.elim

/-- Plain pieces do not end a replacement field that was open before them. -/
lemma inside_pieces {ps : List Piece} (h : ∀ p ∈ ps, p.Plain) {m m' : FormatMode}
    {out' : List Char} (hm : m.Inside)
    (hrun : formatRun malformed field (m, out) (ps.flatMap Piece.chars) = .ok (m', out')) :
    m'.Inside := by
  induction ps generalizing m out with
  | nil =>
    obtain ⟨rfl, -⟩ : m = m' ∧ out = out' := by
      simpa [formatRun, pure, Except.pure] using hrun
    exact hm
  | cons p ps ih =>
    rw [List.flatMap_cons] at hrun
    obtain ⟨⟨m₁, out₁⟩, hfirst, hrest⟩ := formatRun_append_eq_ok hrun
    have hp := h p List.mem_cons_self
    refine ih (fun q hq => h q (List.mem_cons_of_mem _ hq)) (m := m₁) ?_ hrest
    cases p with
    | text cs => exact inside_text hp hm hfirst
    | field name => exact inside_field hp hm hfirst

/-- Plain pieces that begin with text: a format string may have anything before them, braces
included, but if it can be formatted, the pieces are formatted at its end.

**Proof sketch.**  A scan of the text before them that does not end in plain text is inside a
replacement field after the first character of the pieces, or has failed, and nothing in them
ends that field. -/
lemma format_append_eq_ok {fmt result : String} {c : Char} {cs : List Char} {ps : List Piece}
    (hps : ∀ p ∈ Piece.text (c :: cs) :: ps, p.Plain) {before : List Char}
    (hfmt : fmt.toList = before ++ (Piece.text (c :: cs) :: ps).flatMap Piece.chars)
    (h : format malformed field fmt = .ok result) :
    ∃ out tail, evalPieces field (Piece.text (c :: cs) :: ps) = .ok tail ∧
      result.toList = out ++ tail := by
  have hrun : ∃ out, formatRun malformed field (.text, []) fmt.toList = .ok (.text, out) ∧
      result = String.ofList out := by
    rw [format] at h
    split at h
    · cases h
    · rename_i out hout
      exact ⟨out, hout, (Except.ok.inj h).symm⟩
    · cases h
  obtain ⟨out, hrun, rfl⟩ := hrun
  rw [hfmt] at hrun
  obtain ⟨⟨m, out₁⟩, hbefore, hpieces⟩ := formatRun_append_eq_ok hrun
  have htext : m = .text := by
    have hplain : ∀ x ∈ c :: cs, isPlain x = true := hps _ List.mem_cons_self
    have hc := isPlain_iff.mp (hplain c List.mem_cons_self)
    have hrest : ∀ {m₁ : FormatMode} {out₂ : List Char}, m₁.Inside →
        formatRun malformed field (m₁, out₂) (cs ++ ps.flatMap Piece.chars) ≠
          .ok (.text, out) := by
      intro m₁ out₂ hm₁ hr
      obtain ⟨⟨m₂, out₃⟩, hcs, hps'⟩ := formatRun_append_eq_ok hr
      have hm₂ := inside_text (fun x hx => hplain x (List.mem_cons_of_mem _ hx)) hm₁ hcs
      exact inside_pieces (fun p hp => hps p (List.mem_cons_of_mem _ hp)) hm₂ hps'
    have hcons : formatRun malformed field (m, out₁)
        (c :: (cs ++ ps.flatMap Piece.chars)) = .ok (.text, out) := hpieces
    cases m with
    | text => rfl
    | openBrace =>
      have hstep : formatStep malformed field (.openBrace, out₁) c = .ok (.name [c], out₁) := by
        simp [formatStep, nameStep, hc]
      rw [formatRun_cons hstep] at hcons
      exact absurd hcons (hrest trivial)
    | closeBrace =>
      rw [formatRun, List.foldlM_cons, formatStep, if_neg hc.2.1] at hcons
      cases hcons
    | name seen =>
      exact absurd hpieces (inside_pieces hps (m := .name seen) trivial)
    | index seen =>
      exact absurd hpieces (inside_pieces hps (m := .index seen) trivial)
    | spec depth seen =>
      exact absurd hpieces (inside_pieces hps (m := .spec depth seen) trivial)
  subst htext
  rw [formatRun_pieces hps] at hpieces
  cases he : evalPieces field (Piece.text (c :: cs) :: ps) with
  | error e =>
    rw [he] at hpieces
    cases hpieces
  | ok tail =>
    rw [he] at hpieces
    refine ⟨out₁, tail, rfl, ?_⟩
    have hout : out₁ ++ tail = out := by simpa [Except.map] using hpieces
    simp [hout]

end Format

end PyStr
