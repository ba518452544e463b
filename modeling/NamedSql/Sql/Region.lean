/-
The regions of a query in which no marker can stand, and how far each extends.

An extent is measured from just behind the opening delimiter and counts the bytes
up to the end of the region, its closing delimiter included; there is none when the
text ends first:

* `quotedExtent` — `'…'` and `"…"`, where a doubled quote is a quote of the text;
* `escapedExtent` — `E'…'`, where a backslash also takes the next byte with it;
* `lineExtent` — `-- …`, to the end of the line or of the text;
* `commentExtent` — `/* … */`, which nests;
* `delimitedExtent` — `$tag$ … $tag$`, to the first repetition of the delimiter.
-/
import NamedSql.Sql.Byte

namespace NamedSql.Sql

/-- The kinds of region. -/
inductive RegionKind where
  | string
  | escapeString
  | quotedIdentifier
  | lineComment
  | blockComment
  | dollarQuoted
  deriving DecidableEq, Repr

/-- What can still be open at the end of a text. An escape string is a string
literal; a line comment is closed by the end of the text. -/
inductive Unclosed where
  | stringLiteral
  | quotedIdentifier
  | blockComment
  | dollarQuote
  deriving DecidableEq, Repr

/-- The words for what was left open. -/
def Unclosed.description : Unclosed → String
  | .stringLiteral => "string literal"
  | .quotedIdentifier => "quoted identifier"
  | .blockComment => "block comment"
  | .dollarQuote => "dollar-quoted string"

/-- To the first `q` that is not doubled. -/
def quotedExtent (q : UInt8) : List UInt8 → Option Nat
  | [] => none
  | [b] => if b = q then some 1 else none
  | b :: c :: rest =>
    if b = q then
      if c = q then (quotedExtent q rest).map (· + 2) else some 1
    else (quotedExtent q (c :: rest)).map (· + 1)

/-- To the first quote that is neither doubled nor behind a backslash. -/
def escapedExtent : List UInt8 → Option Nat
  | [] => none
  | [b] => if b = Byte.quote then some 1 else none
  | b :: c :: rest =>
    if b = Byte.backslash then (escapedExtent rest).map (· + 2)
    else if b = Byte.quote then
      if c = Byte.quote then (escapedExtent rest).map (· + 2) else some 1
    else (escapedExtent (c :: rest)).map (· + 1)

/-- Through the next line feed, or to the end. -/
def lineExtent : List UInt8 → Nat
  | [] => 0
  | b :: rest => if b = Byte.newline then 1 else lineExtent rest + 1

/-- To the `*/` that closes the comment, with `depth` comments open inside it. -/
def commentExtent (depth : Nat) : List UInt8 → Option Nat
  | [] => none
  | [_] => none
  | b :: c :: rest =>
    if b = Byte.star ∧ c = Byte.slash then
      match depth with
      | 0 => some 2
      | inner + 1 => (commentExtent inner rest).map (· + 2)
    else if b = Byte.slash ∧ c = Byte.star then
      (commentExtent (depth + 1) rest).map (· + 2)
    else (commentExtent depth (c :: rest)).map (· + 1)

/-- Through the first occurrence of the delimiter. -/
def delimitedExtent (delimiter : List UInt8) : List UInt8 → Option Nat
  | [] => if delimiter.isEmpty then some 0 else none
  | b :: rest =>
    if delimiter.isPrefixOf (b :: rest) then some delimiter.length
    else (delimitedExtent delimiter rest).map (· + 1)

/-- The tag of the delimiter that a `$` opens, given the byte before it and the text
behind it: nothing or an identifier, up to the next `$`. A `$` within an identifier
opens none, nor does one before a digit. -/
def dollarTag? (prev : Option UInt8) (behind : List UInt8) : Option (List UInt8) :=
  if followsIdent prev then none
  else if behind.head? = some Byte.dollar then some []
  else if startsIdent behind ∧ (behind.dropWhile isIdentByte).head? = some Byte.dollar then
    some (identRun behind)
  else none

/-- The delimiter with a given tag. -/
def dollarDelimiter (tag : List UInt8) : List UInt8 :=
  Byte.dollar :: (tag ++ [Byte.dollar])

end NamedSql.Sql
