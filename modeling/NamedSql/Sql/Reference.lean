/-
References to named parameters, read off the lexical structure of a query.

Offsets and lengths count bytes. A query whose last region is never closed has the
references before that region and one error:

* `scan` — the references of a query, or the error;
* `Scanner` — the same one at a time, with the error last.
-/
import NamedSql.Sql.Token
import NamedSql.Text.Utf8

namespace NamedSql.Sql

/-- A stretch of a query. -/
structure Span where
  /-- Where its first byte stands. -/
  offset : Nat
  /-- How many bytes it has. -/
  length : Nat
  deriving DecidableEq, Repr

/-- The offset just behind a span. -/
def Span.stop (span : Span) : Nat :=
  span.offset + span.length

/-- A reference to a named parameter. -/
structure Reference where
  /-- The name, without the colon. -/
  name : String
  /-- Where the marker stands, colon included. -/
  span : Span
  deriving DecidableEq, Repr

/-- The marker of a reference, as it is written in the query. -/
def Reference.text (reference : Reference) : String :=
  ":" ++ reference.name

/-- A region that is never closed. -/
structure ScanError where
  what : Unclosed
  /-- From the opening delimiter to the end of the query. -/
  span : Span
  deriving DecidableEq, Repr

/-- The message of a scan error. -/
def ScanError.message (error : ScanError) : String :=
  s!"unterminated {error.what.description} starting at byte {error.span.offset}"

/-- The name that a marker refers to. -/
def Token.name (token : Token) : String :=
  Utf8.decode token.text.tail

/-- The references of tokens that start at an offset. -/
def referencesFrom (offset : Nat) : List Token → List Reference
  | [] => []
  | token :: rest =>
    let others := referencesFrom (offset + token.text.length) rest
    if token.kind = .marker then
      { name := token.name, span := { offset, length := token.text.length } } :: others
    else others

/-- The references of a lexed query. -/
def Lexed.references (lexed : Lexed) : List Reference :=
  referencesFrom 0 lexed.tokens

/-- The error of a lexed query, if a region is left open. -/
def Lexed.error? (lexed : Lexed) : Option ScanError :=
  lexed.unclosed.map fun (what, rest) =>
    { what, span := { offset := (lexed.tokens.flatMap Token.text).length, length := rest.length } }

/-- The lexical structure of a query. -/
def lexQuery (sql : String) : Lexed :=
  lex none (Utf8.encode sql)

/-- The references of a query from left to right, or the error if a region is never
closed. -/
def scan (sql : String) : Except ScanError (List Reference) :=
  let lexed := lexQuery sql
  match lexed.error? with
  | some error => .error error
  | none => .ok lexed.references

/-- The references of a query that are still to come, and the error behind them. -/
structure Scanner where
  pending : List Reference
  error? : Option ScanError

/-- Before the first reference. -/
def Scanner.start (sql : String) : Scanner :=
  let lexed := lexQuery sql
  { pending := lexed.references, error? := lexed.error? }

/-- The next reference, else the error, and nothing after that. -/
def Scanner.next (scanner : Scanner) : Option (Except ScanError Reference) × Scanner :=
  match scanner.pending with
  | reference :: pending => (some (.ok reference), { scanner with pending })
  | [] => (scanner.error?.map .error, { scanner with error? := none })

/-- What `count` calls of `next` give. -/
def Scanner.steps (scanner : Scanner) : Nat → List (Option (Except ScanError Reference))
  | 0 => []
  | count + 1 => scanner.next.1 :: scanner.next.2.steps count

end NamedSql.Sql
