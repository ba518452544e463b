/-
The bytes that the lexical structure of a query turns on.

Every other byte, those of characters outside ASCII included, is opaque.
-/

namespace NamedSql.Sql

namespace Byte

/-- `'` -/
abbrev quote : UInt8 := 0x27
/-- `"` -/
abbrev doubleQuote : UInt8 := 0x22
/-- `\` -/
abbrev backslash : UInt8 := 0x5C
/-- `-` -/
abbrev dash : UInt8 := 0x2D
/-- `/` -/
abbrev slash : UInt8 := 0x2F
/-- `*` -/
abbrev star : UInt8 := 0x2A
/-- `$` -/
abbrev dollar : UInt8 := 0x24
/-- `:` -/
abbrev colon : UInt8 := 0x3A
/-- `E` -/
abbrev upperE : UInt8 := 0x45
/-- `e` -/
abbrev lowerE : UInt8 := 0x65
/-- The line feed. -/
abbrev newline : UInt8 := 0x0A

end Byte

/-- `A` to `Z`, `a` to `z` and `_`: the bytes an identifier starts with. -/
def isIdentStart (b : UInt8) : Bool :=
  decide (0x41 ≤ b ∧ b ≤ 0x5A ∨ 0x61 ≤ b ∧ b ≤ 0x7A ∨ b = 0x5F)

/-- The bytes an identifier goes on with: those it starts with, and digits. -/
def isIdentByte (b : UInt8) : Bool :=
  isIdentStart b || decide (0x30 ≤ b ∧ b ≤ 0x39)

/-- The identifier bytes at the front of a text. -/
def identRun (s : List UInt8) : List UInt8 :=
  s.takeWhile isIdentByte

/-- Whether a text starts with an identifier. -/
def startsIdent (s : List UInt8) : Bool :=
  s.head?.any isIdentStart

/-- Whether the byte before a position, if there is one, is an identifier byte. -/
def followsIdent (prev : Option UInt8) : Bool :=
  prev.any isIdentByte

theorem isIdentByte_of_isIdentStart {b : UInt8} (h : isIdentStart b = true) :
    isIdentByte b = true := by
  simp [isIdentByte, h]

end NamedSql.Sql
