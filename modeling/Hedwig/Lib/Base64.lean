import Mathlib.Data.List.Basic
import Mathlib.Tactic.IntervalCases

set_option relaxedAutoImplicit false
set_option autoImplicit false

/-!
# Base64

The `base64` module on text: `encodebytes(b).decode()`, which ends every line of 57 bytes and the
last one with a line feed, `b64encode(b).decode()`, and the lenient `decodebytes(s.encode())`.

## Main definitions

* `Base64.encodebytes`, `Base64.b64encode` — the encoders.
* `Base64.decodebytes` — the decoder, `none` for `binascii.Error`.

## Main results

* `Base64.decodebytes_encodebytes`, `Base64.decodebytes_b64encode` — decoding inverts both.

## Design

The decoder skips every character outside the alphabet.  A character beyond ASCII is one, and so
are all bytes of its UTF-8 encoding, so it may read characters in place of bytes.
-/

namespace Base64

/-! ## Encoding -/

/-- The character for six bits. -/
def sextetChar (n : ℕ) : Char :=
  "ABCDEFGHIJKLMNOPQRSTUVWXYZabcdefghijklmnopqrstuvwxyz0123456789+/".toList.getD n '='

/-- The four characters for three bytes. -/
def quad (a b c : UInt8) : List Char :=
  [sextetChar (a.toNat / 4), sextetChar (a.toNat % 4 * 16 + b.toNat / 16),
    sextetChar (b.toNat % 16 * 4 + c.toNat / 64), sextetChar (c.toNat % 64)]

/-- The characters for the bytes that are left over, padded. -/
def quad₁ (a : UInt8) : List Char :=
  [sextetChar (a.toNat / 4), sextetChar (a.toNat % 4 * 16), '=', '=']

/-- The characters for two bytes that are left over, padded. -/
def quad₂ (a b : UInt8) : List Char :=
  [sextetChar (a.toNat / 4), sextetChar (a.toNat % 4 * 16 + b.toNat / 16),
    sextetChar (b.toNat % 16 * 4), '=']

/-- The characters of `b64encode(b).decode()`. -/
def b64encodeChars : List UInt8 → List Char
  | [] => []
  | [a] => quad₁ a
  | [a, b] => quad₂ a b
  | a :: b :: c :: rest => quad a b c ++ b64encodeChars rest

/-- `base64.b64encode(b).decode()`. -/
def b64encode (b : List UInt8) : String := String.ofList (b64encodeChars b)

/-- The groups of three bytes in a line. -/
def groupsPerLine : ℕ := 19

/-- The characters of `encodebytes(b).decode()`, with `room` groups left in the line. -/
def encodebytesChars : ℕ → List UInt8 → List Char
  | room, [] => if room = groupsPerLine then [] else ['\n']
  | _, [a] => quad₁ a ++ ['\n']
  | _, [a, b] => quad₂ a b ++ ['\n']
  | room, a :: b :: c :: rest =>
    quad a b c ++
      if room ≤ 1 then '\n' :: encodebytesChars groupsPerLine rest
      else encodebytesChars (room - 1) rest

/-- `base64.encodebytes(b).decode()`. -/
def encodebytes (b : List UInt8) : String := String.ofList (encodebytesChars groupsPerLine b)

/-! ## Decoding -/

/-- The six bits that a character stands for. -/
def sextet? (c : Char) : Option ℕ :=
  let n := c.toNat
  if 65 ≤ n ∧ n ≤ 90 then some (n - 65)
  else if 97 ≤ n ∧ n ≤ 122 then some (n - 71)
  else if 48 ≤ n ∧ n ≤ 57 then some (n + 4)
  else if n = 43 then some 62
  else if n = 47 then some 63
  else none

/-- The decoder at a position in a group of four, with the bits left over from the character
before and the number of padding characters seen.  Padding that completes a group ends the
input. -/
def decodeChars (quadPos leftchar pads : ℕ) : List Char → Option (List UInt8)
  | [] => if quadPos = 0 then some [] else none
  | c :: rest =>
    if c = '=' then
      if 2 ≤ quadPos ∧ 4 ≤ quadPos + (pads + 1) then some []
      else decodeChars quadPos leftchar (if 2 ≤ quadPos then pads + 1 else pads) rest
    else
      match sextet? c with
      | none => decodeChars quadPos leftchar pads rest
      | some v =>
        match quadPos with
        | 0 => decodeChars 1 v 0 rest
        | 1 => (decodeChars 2 (v % 16) 0 rest).map (UInt8.ofNat (leftchar * 4 + v / 16) :: ·)
        | 2 => (decodeChars 3 (v % 4) 0 rest).map (UInt8.ofNat (leftchar * 16 + v / 4) :: ·)
        | _ => (decodeChars 0 0 0 rest).map (UInt8.ofNat (leftchar * 64 + v) :: ·)

/-- `base64.decodebytes(s.encode())`, `none` for `binascii.Error`. -/
def decodebytes (s : String) : Option (List UInt8) := decodeChars 0 0 0 s.toList

/-! ## Round trip -/

/-- A character of the alphabet stands for the bits it was chosen for. -/
lemma sextet?_sextetChar {n : ℕ} (h : n < 64) :
    sextetChar n ≠ '=' ∧ sextet? (sextetChar n) = some n := by
  interval_cases n <;> decide

/-- A character of the alphabet is taken as its six bits. -/
lemma decodeChars_sextetChar {n : ℕ} (h : n < 64) (quadPos leftchar pads : ℕ) (rest : List Char) :
    decodeChars quadPos leftchar pads (sextetChar n :: rest) =
      match quadPos with
      | 0 => decodeChars 1 n 0 rest
      | 1 => (decodeChars 2 (n % 16) 0 rest).map (UInt8.ofNat (leftchar * 4 + n / 16) :: ·)
      | 2 => (decodeChars 3 (n % 4) 0 rest).map (UInt8.ofNat (leftchar * 16 + n / 4) :: ·)
      | _ => (decodeChars 0 0 0 rest).map (UInt8.ofNat (leftchar * 64 + n) :: ·) := by
  obtain ⟨hne, hn⟩ := sextet?_sextetChar h
  rw [decodeChars, if_neg hne, hn]

/-- The first character of a group. -/
lemma decodeChars_zero {n : ℕ} (h : n < 64) (l p : ℕ) (rest : List Char) :
    decodeChars 0 l p (sextetChar n :: rest) = decodeChars 1 n 0 rest :=
  decodeChars_sextetChar h 0 l p rest

/-- The second character of a group completes a byte. -/
lemma decodeChars_one {n l : ℕ} {a : UInt8} (h : n < 64) (ha : l * 4 + n / 16 = a.toNat) (p : ℕ)
    (rest : List Char) :
    decodeChars 1 l p (sextetChar n :: rest) = (decodeChars 2 (n % 16) 0 rest).map (a :: ·) := by
  rw [decodeChars_sextetChar h]
  simp only [ha, UInt8.ofNat_toNat]

/-- The third character of a group completes a byte. -/
lemma decodeChars_two {n l : ℕ} {a : UInt8} (h : n < 64) (ha : l * 16 + n / 4 = a.toNat) (p : ℕ)
    (rest : List Char) :
    decodeChars 2 l p (sextetChar n :: rest) = (decodeChars 3 (n % 4) 0 rest).map (a :: ·) := by
  rw [decodeChars_sextetChar h]
  simp only [ha, UInt8.ofNat_toNat]

/-- The fourth character of a group completes a byte. -/
lemma decodeChars_three {n l : ℕ} {a : UInt8} (h : n < 64) (ha : l * 64 + n = a.toNat) (p : ℕ)
    (rest : List Char) :
    decodeChars 3 l p (sextetChar n :: rest) = (decodeChars 0 0 0 rest).map (a :: ·) := by
  rw [decodeChars_sextetChar h]
  simp only [ha, UInt8.ofNat_toNat]

/-- A full group is decoded to its three bytes. -/
lemma decodeChars_quad (a b c : UInt8) (rest : List Char) :
    decodeChars 0 0 0 (quad a b c ++ rest) =
      (decodeChars 0 0 0 rest).map fun bytes => a :: b :: c :: bytes := by
  have ha := a.toNat_lt
  have hb := b.toNat_lt
  have hc := c.toNat_lt
  simp only [quad, List.cons_append, List.nil_append]
  rw [decodeChars_zero (by omega), decodeChars_one (a := a) (by omega) (by omega),
    decodeChars_two (a := b) (by omega) (by omega),
    decodeChars_three (a := c) (by omega) (by omega), Option.map_map, Option.map_map]
  rfl

/-- A padded group with one byte ends the input. -/
lemma decodeChars_quad₁ (a : UInt8) (rest : List Char) :
    decodeChars 0 0 0 (quad₁ a ++ rest) = some [a] := by
  have ha := a.toNat_lt
  simp only [quad₁, List.cons_append, List.nil_append]
  rw [decodeChars_zero (by omega), decodeChars_one (a := a) (by omega) (by omega)]
  rfl

/-- A padded group with two bytes ends the input. -/
lemma decodeChars_quad₂ (a b : UInt8) (rest : List Char) :
    decodeChars 0 0 0 (quad₂ a b ++ rest) = some [a, b] := by
  have ha := a.toNat_lt
  have hb := b.toNat_lt
  simp only [quad₂, List.cons_append, List.nil_append]
  rw [decodeChars_zero (by omega), decodeChars_one (a := a) (by omega) (by omega),
    decodeChars_two (a := b) (by omega) (by omega)]
  rfl

/-- A line feed is skipped. -/
lemma decodeChars_lineFeed (rest : List Char) :
    decodeChars 0 0 0 ('\n' :: rest) = decodeChars 0 0 0 rest := rfl

/-- Decoding inverts `b64encode`. -/
theorem decodebytes_b64encode (b : List UInt8) : decodebytes (b64encode b) = some b := by
  rw [decodebytes, b64encode, String.toList_ofList]
  fun_induction b64encodeChars b with
  | case1 => rfl
  | case2 a => simpa using decodeChars_quad₁ a []
  | case3 a b => simpa using decodeChars_quad₂ a b []
  | case4 a b c rest ih => rw [decodeChars_quad, ih, Option.map_some]

/-- Decoding inverts `encodebytes`, by induction on the groups of three bytes. -/
theorem decodebytes_encodebytes (b : List UInt8) : decodebytes (encodebytes b) = some b := by
  rw [decodebytes, encodebytes, String.toList_ofList]
  generalize groupsPerLine = room
  fun_induction encodebytesChars room b with
  | case1 => rfl
  | case2 room hroom => rw [decodeChars_lineFeed]; rfl
  | case3 room a => exact decodeChars_quad₁ a _
  | case4 room a b => exact decodeChars_quad₂ a b _
  | case5 room a b c rest ihLine ih =>
    rw [decodeChars_quad]
    split_ifs
    · rw [decodeChars_lineFeed, ihLine, Option.map_some]
    · rw [ih, Option.map_some]

example : encodebytes [104, 101, 100, 119] = "aGVkdw==\n" := by decide

end Base64
