/-
The layout of code, and the string literals in it.

Code is a list of lines. Empty lines are never indented, and text that holds line breaks
turns into as many lines.

In a literal, a character that can be shown stands for itself. Quotes, backslashes and a few
control characters have short escapes, and everything that is not printable or only extends
the character before it is written by its code point. So a literal is one line of text
whatever it holds.

* `textLines` — the lines of a text;
* `block` — a head, an indented body and a closing brace;
* `separated` — items with one empty line between them;
* `Literal.escape` — a character inside a literal;
* `Literal.encode` — the literal of a text.
-/
import NamedSql.Text.Printable

namespace NamedSql.Code

/-- Lines of code, without their line breaks. -/
abbrev Lines := List String

/-- A line without a carriage return at its end. -/
def dropReturn (line : List Char) : List Char :=
  if line.getLast? = some '\r' then line.dropLast else line

/-- The lines of a text. A carriage return in front of a line feed belongs to the line
break. -/
def textLines (s : String) : Lines :=
  let stretches := s.toList.splitOn '\n'
  (stretches.dropLast.map dropReturn ++ stretches.getLast?.toList).map String.ofList

/-- Four spaces in front of every line that is not empty. -/
def indent (lines : Lines) : Lines :=
  lines.map fun line => if line.isEmpty then line else "    " ++ line

/-- A block: its head, with the opening brace on the head's last line, the indented body
and the closing brace. -/
def block (head : String) (body : Lines) : Lines :=
  let opening := if head.toList.getLast? = some '\n' then "\x7b" else " \x7b"
  textLines (head ++ opening) ++ indent body ++ ["\x7d"]

/-- Items with one empty line between them. -/
def separated (items : List Lines) : Lines :=
  [""].intercalate items

/-- A documentation comment. -/
def docComment (text : String) : Lines :=
  (textLines text).map fun line => if line.isEmpty then "///" else "/// " ++ line

/-- The text of code, without a line break at the end. -/
def text (lines : Lines) : String :=
  "\n".intercalate lines

namespace Literal

/-- An escape by code point. -/
def escapeByNumber (c : Char) : List Char :=
  ['\\', 'u', '{'] ++ Nat.toDigits 16 c.toNat ++ ['}']

/-- A character as it is written inside a literal. -/
def escape (c : Char) : List Char :=
  if c = '\x00' then ['\\', '0']
  else if c = '\t' then ['\\', 't']
  else if c = '\r' then ['\\', 'r']
  else if c = '\n' then ['\\', 'n']
  else if c = '"' then ['\\', '"']
  else if c = '\\' then ['\\', '\\']
  else if Text.isExtending c || !Text.isPrintable c then escapeByNumber c
  else [c]

/-- The literal of a text. -/
def encode (s : String) : String :=
  String.ofList (['"'] ++ s.toList.flatMap escape ++ ['"'])

end Literal

end NamedSql.Code
