/-
File modes, written as octal numbers.

* `Mode.parse?` — the mode of a text such as `0644`;
* `Mode.octal` — the digits of a mode;
* `Mode.ownerReads`, `Mode.ownerWrites`, `Mode.ownerSearches` — what a mode grants to the
  owner of a file or a directory.
-/

namespace NamedSql.Files

/-- The permission bits of a file or a directory, the special bits included. -/
abbrev Mode := Nat

namespace Mode

/-- All the bits a mode can have. -/
def all : Mode := 0o7777

/-- The digits of a mode in base eight. -/
def octal (mode : Mode) : String :=
  String.ofList (Nat.toDigits 8 mode)

/-- Whether the owner may read a file, or list a directory. -/
def ownerReads (mode : Mode) : Bool :=
  Nat.testBit mode 8

/-- Whether the owner may write a file, or change the entries of a directory. -/
def ownerWrites (mode : Mode) : Bool :=
  Nat.testBit mode 7

/-- Whether the owner may look up names in a directory. -/
def ownerSearches (mode : Mode) : Bool :=
  Nat.testBit mode 6

/-- The value of a digit in base eight. -/
def octalDigit? (c : Char) : Option Nat :=
  if '0' ≤ c ∧ c ≤ '7' then some (c.toNat - '0'.toNat) else none

/-- The number that octal digits spell behind the digits of `high`. -/
def readOctal? (high : Nat) : List Char → Option Nat
  | [] => some high
  | c :: rest =>
    match octalDigit? c with
    | some digit => readOctal? (high * 8 + digit) rest
    | none => none

/-- A text without a mark of base eight in front. -/
def dropBase : List Char → List Char
  | '0' :: 'o' :: rest => rest
  | s => s

/-- A text without a plus sign in front. -/
def dropPlus : List Char → List Char
  | '+' :: rest => rest
  | s => s

/-- The mode that a text spells: `0o` or nothing, a plus sign or nothing, and octal digits
of a value that is a mode. -/
def parse? (text : String) : Option Mode :=
  let digits := dropPlus (dropBase text.toList)
  if digits.isEmpty then none
  else
    match readOctal? 0 digits with
    | some mode => if mode ≤ all then some mode else none
    | none => none

end Mode

end NamedSql.Files
