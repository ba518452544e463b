/-
The lexical grammar of a query, as rules that say what may stand where.

The rules mention no position and no search. A region is an opening delimiter and what
closes it; looking ahead is a condition on the text behind:

* `Opening` — the delimiters that open a region, given the byte before them;
* `Closing` — how far a region goes on behind its opening delimiter;
* `IsToken` — the tokens of every kind;
* `IsOpen` — a region that nothing closes;
* `Scans` — the references of a text from left to right, and the error at its end.
-/
import NamedSql.Sql.Reference

namespace NamedSql.Sql

/-! ### Bodies -/

/-- What stands between quotes: bytes other than the quote, and doubled quotes. -/
inductive QuotedBody (q : UInt8) : List UInt8 → Prop
  | nil : QuotedBody q []
  | byte {b : UInt8} {body : List UInt8} :
      b ≠ q → QuotedBody q body → QuotedBody q (b :: body)
  | doubled {body : List UInt8} : QuotedBody q body → QuotedBody q (q :: q :: body)

/-- What stands in an escape string: a backslash with the byte behind it, doubled
quotes, and other bytes. -/
inductive EscapedBody : List UInt8 → Prop
  | nil : EscapedBody []
  | escaped {b : UInt8} {body : List UInt8} :
      EscapedBody body → EscapedBody (Byte.backslash :: b :: body)
  | doubled {body : List UInt8} :
      EscapedBody body → EscapedBody (Byte.quote :: Byte.quote :: body)
  | byte {b : UInt8} {body : List UInt8} :
      b ≠ Byte.backslash → b ≠ Byte.quote → EscapedBody body → EscapedBody (b :: body)

/-- A block comment from behind its `/*` to the end of its `*/`: whole comments, and
bytes where neither delimiter starts. -/
inductive CommentRest : List UInt8 → Prop
  | closing : CommentRest [Byte.star, Byte.slash]
  | comment {inner outer : List UInt8} :
      CommentRest inner → CommentRest outer →
        CommentRest (Byte.slash :: Byte.star :: (inner ++ outer))
  | byte {b : UInt8} {body : List UInt8} :
      ¬ [Byte.star, Byte.slash] <+: b :: body → ¬ [Byte.slash, Byte.star] <+: b :: body →
        CommentRest body → CommentRest (b :: body)

/-- The delimiter behind `body` is its first occurrence. -/
def FirstBehind (delimiter body : List UInt8) : Prop :=
  ∀ before after, body ++ delimiter = before ++ delimiter ++ after → after = []

/-- `[A-Za-z_][A-Za-z0-9_]*` -/
def IsName (name : List UInt8) : Prop :=
  startsIdent name = true ∧ ∀ b ∈ name, isIdentByte b = true

/-- The byte before a marker, if there is one, is no identifier byte and no colon. -/
def MayPrecedeMarker (prev : Option UInt8) : Prop :=
  followsIdent prev = false ∧ prev ≠ some Byte.colon

/-! ### Regions -/

/-- The delimiters that open a region behind the byte `prev`. -/
inductive Opening (prev : Option UInt8) : RegionKind → List UInt8 → Prop
  | string : Opening prev .string [Byte.quote]
  | quotedIdentifier : Opening prev .quotedIdentifier [Byte.doubleQuote]
  | escapeString {e : UInt8} :
      e = Byte.upperE ∨ e = Byte.lowerE → followsIdent prev = false →
        Opening prev .escapeString [e, Byte.quote]
  | lineComment : Opening prev .lineComment [Byte.dash, Byte.dash]
  | blockComment : Opening prev .blockComment [Byte.slash, Byte.star]
  | dollarQuoted {tag : List UInt8} :
      tag = [] ∨ IsName tag → followsIdent prev = false →
        Opening prev .dollarQuoted (dollarDelimiter tag)

/-- A region that `opening` opens goes on with `tail` and ends there, before `rest`. -/
inductive Closing : RegionKind → (opening tail rest : List UInt8) → Prop
  | string {opening body rest : List UInt8} :
      QuotedBody Byte.quote body → rest.head? ≠ some Byte.quote →
        Closing .string opening (body ++ [Byte.quote]) rest
  | quotedIdentifier {opening body rest : List UInt8} :
      QuotedBody Byte.doubleQuote body → rest.head? ≠ some Byte.doubleQuote →
        Closing .quotedIdentifier opening (body ++ [Byte.doubleQuote]) rest
  | escapeString {opening body rest : List UInt8} :
      EscapedBody body → rest.head? ≠ some Byte.quote →
        Closing .escapeString opening (body ++ [Byte.quote]) rest
  | line {opening body rest : List UInt8} :
      Byte.newline ∉ body → Closing .lineComment opening (body ++ [Byte.newline]) rest
  | lastLine {opening body : List UInt8} :
      Byte.newline ∉ body → Closing .lineComment opening body []
  | blockComment {opening tail rest : List UInt8} :
      CommentRest tail → Closing .blockComment opening tail rest
  | dollarQuoted {opening body rest : List UInt8} :
      FirstBehind opening body → Closing .dollarQuoted opening (body ++ opening) rest

/-- What is left open when a region of a kind is never closed. -/
def RegionKind.unclosed? : RegionKind → Option Unclosed
  | .string | .escapeString => some .stringLiteral
  | .quotedIdentifier => some .quotedIdentifier
  | .lineComment => none
  | .blockComment => some .blockComment
  | .dollarQuoted => some .dollarQuote

/-- A region opens at the front of the text. -/
def StartsRegion (prev : Option UInt8) (s : List UInt8) : Prop :=
  ∃ kind opening, Opening prev kind opening ∧ opening <+: s

/-- The text opens a region that nothing in it closes. -/
def IsOpen (prev : Option UInt8) (what : Unclosed) (s : List UInt8) : Prop :=
  ∃ kind opening behind, s = opening ++ behind ∧ Opening prev kind opening ∧
    kind.unclosed? = some what ∧
    ∀ tail rest, behind = tail ++ rest → ¬ Closing kind opening tail rest

/-! ### Tokens and references -/

/-- A marker starts at the front of the text. -/
def StartsMarker (prev : Option UInt8) (s : List UInt8) : Prop :=
  MayPrecedeMarker prev ∧ ∃ behind, s = Byte.colon :: behind ∧ startsIdent behind = true

/-- `text` is a token between the byte `prev` and the text `rest`. -/
inductive IsToken (prev : Option UInt8) : TokenKind → (text rest : List UInt8) → Prop
  | region {kind : RegionKind} {opening tail rest : List UInt8} :
      Opening prev kind opening → Closing kind opening tail rest →
        IsToken prev (.region kind) (opening ++ tail) rest
  | cast {rest : List UInt8} : IsToken prev .cast [Byte.colon, Byte.colon] rest
  | marker {name rest : List UInt8} :
      MayPrecedeMarker prev → IsName name → rest.head?.any isIdentByte = false →
        IsToken prev .marker (Byte.colon :: name) rest
  | plain {b : UInt8} {rest : List UInt8} :
      ¬ StartsRegion prev (b :: rest) → ¬ [Byte.colon, Byte.colon] <+: b :: rest →
        ¬ StartsMarker prev (b :: rest) → IsToken prev .plain [b] rest

/-- The references of the text `s`, which starts at an offset behind the byte `prev`,
and the error of a region left open at its end. -/
inductive Scans : Option UInt8 → Nat → List UInt8 → List Reference → Option ScanError → Prop
  | done {prev : Option UInt8} {offset : Nat} : Scans prev offset [] [] none
  | reference {prev : Option UInt8} {offset : Nat} {name : String} {text rest : List UInt8}
      {references : List Reference} {error? : Option ScanError} :
      text = Byte.colon :: Utf8.encode name → IsToken prev .marker text rest →
        Scans text.getLast? (offset + text.length) rest references error? →
        Scans prev offset (text ++ rest)
          ({ name, span := { offset, length := text.length } } :: references) error?
  | skip {prev : Option UInt8} {offset : Nat} {kind : TokenKind} {text rest : List UInt8}
      {references : List Reference} {error? : Option ScanError} :
      kind ≠ .marker → IsToken prev kind text rest →
        Scans text.getLast? (offset + text.length) rest references error? →
        Scans prev offset (text ++ rest) references error?
  | unclosed {prev : Option UInt8} {offset : Nat} {what : Unclosed} {s : List UInt8} :
      IsOpen prev what s →
        Scans prev offset s [] (some { what, span := { offset, length := s.length } })

end NamedSql.Sql
