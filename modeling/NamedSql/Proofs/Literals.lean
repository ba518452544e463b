/-
String literals read back.

The reader goes through a literal character by character, with the escape it is in as its
only state.

* `readLiteral` — the text of a literal at the front of a line, and what stands behind it;
* `readLiteral_encode` — it reads every literal, whatever stands behind it;
* `not_mem_encode` — a literal holds no line feed and no carriage return.
-/
import Mathlib
import NamedSql.Code.Layout

namespace NamedSql.Code.Literal

/-- Where a reader is in a literal. -/
inductive Place where
  | plain
  /-- Behind a backslash. -/
  | escape
  /-- Behind the letter of an escape by code point. -/
  | brace
  /-- Among the digits of a code point, after those of `value`. -/
  | digits (value : Nat)
  deriving DecidableEq, Repr

/-- The character of an escape of one letter. -/
def escapedChar? (c : Char) : Option Char :=
  if c = '0' then some '\x00'
  else if c = 't' then some '\t'
  else if c = 'r' then some '\r'
  else if c = 'n' then some '\n'
  else if c = '"' then some '"'
  else if c = '\\' then some '\\'
  else none

/-- The value of a hexadecimal digit. -/
def hexDigit? (c : Char) : Option Nat :=
  if c.isDigit then some (c.toNat - 48)
  else if 'a' ≤ c ∧ c ≤ 'f' then some (c.toNat - 87)
  else none

/-- One character more in front of what was read. -/
def putFirst (c : Char) (read : List Char × List Char) : List Char × List Char :=
  (c :: read.1, read.2)

/-- The characters of a literal up to the closing quote, and what stands behind it. -/
def readBody : Place → List Char → Option (List Char × List Char)
  | _, [] => none
  | .plain, c :: rest =>
    if c = '"' then some ([], rest)
    else if c = '\\' then readBody .escape rest
    else (readBody .plain rest).map (putFirst c)
  | .escape, c :: rest =>
    if c = 'u' then readBody .brace rest
    else
      match escapedChar? c with
      | some char => (readBody .plain rest).map (putFirst char)
      | none => none
  | .brace, c :: rest => if c = '{' then readBody (.digits 0) rest else none
  | .digits value, c :: rest =>
    if c = '}' then (readBody .plain rest).map (putFirst (Char.ofNat value))
    else
      match hexDigit? c with
      | some digit => readBody (.digits (16 * value + digit)) rest
      | none => none

/-- The text of a literal, and what stands behind it. -/
def readLiteral : List Char → Option (String × List Char)
  | [] => none
  | c :: rest =>
    if c = '"' then (readBody .plain rest).map fun read => (String.ofList read.1, read.2)
    else none

/-! ### Digits -/

theorem digitChar_in_tables : ∀ digit < 16,
    hexDigit? (Nat.digitChar digit) = some digit ∧
      Nat.digitChar digit ∉ ['}', '\n', '\r'] := by
  decide

theorem readBody_digitChar {value digit : Nat} (h : digit < 16) (rest : List Char) :
    readBody (.digits value) (Nat.digitChar digit :: rest) =
      readBody (.digits (16 * value + digit)) rest := by
  obtain ⟨hdigit, hchar⟩ := digitChar_in_tables digit h
  rw [readBody, if_neg (List.ne_of_not_mem_cons hchar), hdigit]

/-- The digits of a number are read as the number.  The induction is on the number without its
last digit, which is written in front. -/
theorem readBody_toDigits (n : Nat) (rest : List Char) :
    readBody (.digits 0) (Nat.toDigits 16 n ++ rest) = readBody (.digits n) rest := by
  induction n using Nat.strongRecOn generalizing rest with
  | _ n ih =>
    rw [Nat.toDigits_eq_if (by decide)]
    by_cases hsmall : n < 16
    · rw [if_pos hsmall, List.singleton_append, readBody_digitChar hsmall, Nat.mul_zero,
        Nat.zero_add]
    · have hshorter : n / 16 < n := by omega
      rw [if_neg hsmall, List.append_assoc, ih (n / 16) hshorter, List.singleton_append,
        readBody_digitChar (Nat.mod_lt n (by decide)), Nat.div_add_mod]

/-! ### Literals -/

theorem readBody_escapeByNumber (c : Char) (rest : List Char) :
    readBody .plain (escapeByNumber c ++ rest) = (readBody .plain rest).map (putFirst c) := by
  have hopening : readBody .plain (escapeByNumber c ++ rest) =
      readBody (.digits 0) (Nat.toDigits 16 c.toNat ++ '}' :: rest) := by
    rw [escapeByNumber, List.append_assoc, List.append_assoc]
    rfl
  -- the digits give the number back, and the closing brace ends it
  rw [hopening, readBody_toDigits, readBody, if_pos rfl, Char.ofNat_toNat]

/-- A character is read from its escape, whatever comes next. -/
theorem readBody_escape (c : Char) (rest : List Char) :
    readBody .plain (escape c ++ rest) = (readBody .plain rest).map (putFirst c) := by
  -- six characters have a letter of their own, the others stand as they are or by number
  fun_cases escape c
  case case1 h => rw [h]; rfl
  case case2 h => rw [h]; rfl
  case case3 h => rw [h]; rfl
  case case4 h => rw [h]; rfl
  case case5 h => rw [h]; rfl
  case case6 h => rw [h]; rfl
  case case7 => exact readBody_escapeByNumber c rest
  case case8 hquote hbackslash _ =>
    rw [List.singleton_append, readBody, if_neg hquote, if_neg hbackslash]

theorem readBody_flatMap (s rest : List Char) :
    readBody .plain (s.flatMap escape ++ '"' :: rest) = some (s, rest) := by
  induction s with
  | nil => rfl
  | cons c s ih =>
    rw [List.flatMap_cons, List.append_assoc, readBody_escape, ih]
    rfl

/-- A literal is read whatever stands behind it. -/
theorem readLiteral_encode (s : String) (rest : List Char) :
    readLiteral ((encode s).toList ++ rest) = some (s, rest) := by
  rw [encode, String.toList_ofList, List.append_assoc, List.append_assoc, List.singleton_append,
    List.singleton_append, readLiteral, if_pos rfl, readBody_flatMap, Option.map_some,
    String.ofList_toList]

/-! ### Control characters -/

theorem mem_toDigits {n : Nat} {c : Char} (h : c ∈ Nat.toDigits 16 n) :
    ∃ digit < 16, c = Nat.digitChar digit := by
  induction n using Nat.strongRecOn with
  | _ n ih =>
    rw [Nat.toDigits_eq_if (by decide)] at h
    by_cases hsmall : n < 16
    · rw [if_pos hsmall] at h
      exact ⟨n, hsmall, List.mem_singleton.mp h⟩
    · rw [if_neg hsmall] at h
      rcases List.mem_append.mp h with hfront | hlast
      · exact ih (n / 16) (by omega) hfront
      · exact ⟨n % 16, Nat.mod_lt n (by decide), List.mem_singleton.mp hlast⟩

theorem not_mem_escapeByNumber {c control : Char} (hcontrol : control ∈ ['\n', '\r']) :
    control ∉ escapeByNumber c := by
  -- around the digits stand a backslash, a letter and braces
  intro h
  rcases List.mem_append.mp h with hfront | hclosing
  · rcases List.mem_append.mp hfront with hopening | hdigits
    · fin_cases hcontrol <;> exact absurd hopening (by decide)
    · obtain ⟨digit, hdigit, rfl⟩ := mem_toDigits hdigits
      exact (digitChar_in_tables digit hdigit).2 (List.mem_cons_of_mem '}' hcontrol)
  · fin_cases hcontrol <;> exact absurd hclosing (by decide)

theorem not_mem_escape {c control : Char} (hcontrol : control ∈ ['\n', '\r']) :
    control ∉ escape c := by
  -- a control character is never written as it is: both have a letter of their own
  fun_cases escape c
  case case7 => exact not_mem_escapeByNumber hcontrol
  case case8 =>
    rw [List.mem_singleton]
    rintro rfl
    fin_cases hcontrol <;> contradiction
  all_goals fin_cases hcontrol <;> decide

/-- A literal is one line, and holds no carriage return either. -/
theorem not_mem_encode {s : String} {control : Char} (hcontrol : control ∈ ['\n', '\r']) :
    control ∉ (encode s).toList := by
  rw [encode, String.toList_ofList]
  intro h
  rcases List.mem_append.mp h with hfront | hclosing
  · rcases List.mem_append.mp hfront with hopening | hbody
    · fin_cases hcontrol <;> exact absurd hopening (by decide)
    · obtain ⟨c, -, hc⟩ := List.mem_flatMap.mp hbody
      exact not_mem_escape hcontrol hc
  · fin_cases hcontrol <;> exact absurd hclosing (by decide)

end NamedSql.Code.Literal
