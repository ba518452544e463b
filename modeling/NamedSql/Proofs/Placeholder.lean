/-
The bytes of a placeholder, and the number read from them.

A placeholder of a numbered dialect is a sigil and decimal digits; of the other dialect it
is `?` alone.  The digits read back to the number (`decimal_digits`).
-/
import NamedSql.Proofs.Encoding
import NamedSql.Sql.Byte
import NamedSql.Sql.Dialect

namespace NamedSql.Sql

/-! ### Decimal digits -/

/-- `0` to `9` -/
def isDigit (b : UInt8) : Bool :=
  decide (0x30 ≤ b ∧ b ≤ 0x39)

/-- The number that decimal digits spell. -/
def decimal (digits : List UInt8) : Nat :=
  digits.foldl (fun number b => 10 * number + (b.toNat - 0x30)) 0

/-- The decimal digits of a number. -/
def digits (n : Nat) : List UInt8 :=
  Utf8.encode (toString n)

theorem isIdentByte_of_isDigit {b : UInt8} (h : isDigit b = true) : isIdentByte b = true := by
  rw [isIdentByte, show decide (0x30 ≤ b ∧ b ≤ 0x39) = true from h, Bool.or_true]

theorem not_isIdentStart_of_isDigit {b : UInt8} (h : isDigit b = true) :
    isIdentStart b = false := by
  obtain ⟨hlow, hhigh⟩ := of_decide_eq_true h
  rw [UInt8.le_iff_toNat_le] at hlow hhigh
  have hhigh : b.toNat ≤ 57 := hhigh
  rw [isIdentStart, decide_eq_false_iff_not]
  rintro (⟨hupper, -⟩ | ⟨hlower, -⟩ | rfl)
  · have hupper : 65 ≤ b.toNat := UInt8.le_iff_toNat_le.mp hupper
    omega
  · have hlower : 97 ≤ b.toNat := UInt8.le_iff_toNat_le.mp hlower
    omega
  · exact absurd hhigh (by decide)

theorem utf8EncodeChar_digit {c : Char} (h : c.isDigit = true) :
    String.utf8EncodeChar c = [c.toUInt8] ∧ c.toUInt8.toNat = c.toNat ∧
      isDigit c.toUInt8 = true := by
  obtain ⟨hlow, hhigh⟩ : 48 ≤ c.toNat ∧ c.toNat ≤ 57 := by
    simpa [Char.isDigit, UInt32.le_iff_toNat_le] using h
  have hbyte : c.toUInt8.toNat = c.toNat := by
    rw [Char.toUInt8]
    show c.toNat % 256 = c.toNat
    omega
  refine ⟨?_, hbyte, ?_⟩
  · -- digits are encoded in one byte
    have hsize : c.val.toNat ≤ 0x7f := by
      show c.toNat ≤ 127
      omega
    rw [String.utf8EncodeChar]
    simp only [hsize, ↓reduceIte]
    rfl
  · rw [isDigit, decide_eq_true_eq, UInt8.le_iff_toNat_le, UInt8.le_iff_toNat_le, hbyte]
    exact ⟨hlow, hhigh⟩

theorem digits_eq (n : Nat) : digits n = (Nat.toDigits 10 n).map Char.toUInt8 := by
  have hdigit : ∀ c ∈ Nat.toDigits 10 n, c.isDigit = true := fun c hc =>
    Nat.isDigit_of_mem_toDigits (by decide) (by decide) hc
  rw [digits, Utf8.encode, Nat.toString_eq_repr, Nat.toList_repr]
  generalize Nat.toDigits 10 n = chars at hdigit
  induction chars with
  | nil => rfl
  | cons c chars ih =>
    rw [List.flatMap_cons, (utf8EncodeChar_digit (hdigit c (by simp))).1,
      ih fun d hd => hdigit d (List.mem_cons_of_mem c hd)]
    rfl

theorem digits_ne_nil (n : Nat) : digits n ≠ [] := by
  rw [digits_eq]
  simp [Nat.toDigits_ne_nil]

theorem isDigit_of_mem_digits {n : Nat} {b : UInt8} (h : b ∈ digits n) : isDigit b = true := by
  rw [digits_eq] at h
  obtain ⟨c, hc, rfl⟩ := List.mem_map.mp h
  exact (utf8EncodeChar_digit (Nat.isDigit_of_mem_toDigits (by decide) (by decide) hc)).2.2

theorem decimal_digits (n : Nat) : decimal (digits n) = n := by
  have hdigit : ∀ c ∈ Nat.toDigits 10 n, c.isDigit = true := fun c hc =>
    Nat.isDigit_of_mem_toDigits (by decide) (by decide) hc
  -- a digit counts the same as a byte and as a character
  have hfold : ∀ (chars : List Char) (start : Nat), (∀ c ∈ chars, c.isDigit = true) →
      (chars.map Char.toUInt8).foldl (fun number b => 10 * number + (b.toNat - 0x30)) start =
        Nat.ofDigitChars 10 chars start := by
    intro chars
    induction chars with
    | nil =>
      intro start _
      rw [Nat.ofDigitChars_nil]
      rfl
    | cons c chars ih =>
      intro start hchars
      rw [List.map_cons, List.foldl_cons, (utf8EncodeChar_digit (hchars c (by simp))).2.1,
        Nat.ofDigitChars_cons, ih _ fun d hd => hchars d (List.mem_cons_of_mem c hd)]
      rfl
  rw [decimal, digits_eq, hfold _ _ hdigit, Nat.ofDigitChars_ten_toDigits]

/-! ### Placeholders -/

/-- What stands before the number in a placeholder. -/
def Dialect.sigil : Dialect → List UInt8
  | .dollar => [Byte.dollar]
  | .question => [0x3F]
  | .atP => [0x40, 0x70]
  | .colon => [Byte.colon]

theorem encode_placeholder_question (index : Nat) :
    Utf8.encode (Dialect.question.placeholder index) = Dialect.question.sigil := by
  show Utf8.encode "?" = [0x3F]
  decide

theorem encode_placeholder {dialect : Dialect} (h : dialect ≠ .question) (index : Nat) :
    Utf8.encode (dialect.placeholder index) = dialect.sigil ++ digits index := by
  have happend (sigil : String) :
      Utf8.encode (toString sigil ++ toString index) = Utf8.encode sigil ++ digits index :=
    Utf8.encode_append sigil (toString index)
  cases dialect with
  | question => exact absurd rfl h
  | dollar => exact happend "$"
  | atP => exact happend "@p"
  | colon => exact happend ":"

end NamedSql.Sql
