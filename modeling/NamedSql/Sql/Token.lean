/-
The lexical structure of a query: a split of its bytes into tokens.

At each position the first rule that applies decides: regions are skipped whole,
`::` is one token, a marker is a colon and the longest identifier behind it, and any
other byte stands alone. The only failure is a region that is still open at the end.

* `front` — the token at the front of a text, given the byte before it;
* `lex` — the tokens of a whole text, and what is left open at its end;
* `lex_text` — the tokens and what is left open spell the text.
-/
import NamedSql.Sql.Region

namespace NamedSql.Sql

/-- What a stretch of a query is. -/
inductive TokenKind where
  | region (kind : RegionKind)
  /-- `::`, a type cast. -/
  | cast
  /-- `:name`, a reference to a named parameter. -/
  | marker
  /-- A byte without a meaning of its own. -/
  | plain
  deriving DecidableEq, Repr

/-- A stretch of a query. -/
structure Token where
  kind : TokenKind
  text : List UInt8
  deriving DecidableEq, Repr

/-- What stands at the front of a text: a token that takes `more` bytes after the
first, or a region that is never closed. -/
inductive Front where
  | token (kind : TokenKind) (more : Nat)
  | unclosed (what : Unclosed)
  deriving DecidableEq, Repr

/-- A region whose opening delimiter takes `opening` bytes after the first, and whose
extent may be missing. -/
def Front.ofExtent (kind : RegionKind) (what : Unclosed) (opening : Nat) :
    Option Nat → Front
  | some extent => .token (.region kind) (opening + extent)
  | none => .unclosed what

/-- Whether a colon is a marker, given the byte before it and the text behind it. -/
def startsMarker (prev : Option UInt8) (behind : List UInt8) : Bool :=
  !followsIdent prev && prev != some Byte.colon && startsIdent behind

/-- The token at the front of the text `b :: behind`, given the byte before it. -/
def front (prev : Option UInt8) (b : UInt8) (behind : List UInt8) : Front :=
  if b = Byte.quote then
    .ofExtent .string .stringLiteral 0 (quotedExtent Byte.quote behind)
  else if b = Byte.doubleQuote then
    .ofExtent .quotedIdentifier .quotedIdentifier 0 (quotedExtent Byte.doubleQuote behind)
  else if (b = Byte.upperE ∨ b = Byte.lowerE) ∧ behind.head? = some Byte.quote ∧
      followsIdent prev = false then
    .ofExtent .escapeString .stringLiteral 1 (escapedExtent behind.tail)
  else if b = Byte.dash ∧ behind.head? = some Byte.dash then
    .token (.region .lineComment) (1 + lineExtent behind.tail)
  else if b = Byte.slash ∧ behind.head? = some Byte.star then
    .ofExtent .blockComment .blockComment 1 (commentExtent 0 behind.tail)
  else if b = Byte.dollar then
    match dollarTag? prev behind with
    | some tag =>
      .ofExtent .dollarQuoted .dollarQuote (tag.length + 1)
        (delimitedExtent (dollarDelimiter tag) (behind.drop (tag.length + 1)))
    | none => .token .plain 0
  else if b = Byte.colon then
    if behind.head? = some Byte.colon then .token .cast 1
    else if startsMarker prev behind then .token .marker (identRun behind).length
    else .token .plain 0
  else .token .plain 0

/-- The tokens of a text, and the region still open at its end with the text from its
opening delimiter on. -/
structure Lexed where
  tokens : List Token
  unclosed : Option (Unclosed × List UInt8)
  deriving DecidableEq, Repr

/-- Put a token in front. -/
def Lexed.cons (token : Token) (lexed : Lexed) : Lexed :=
  { lexed with tokens := token :: lexed.tokens }

/-- The lexical structure of a text, given the byte before it. -/
def lex (prev : Option UInt8) : List UInt8 → Lexed
  | [] => { tokens := [], unclosed := none }
  | b :: behind =>
    match front prev b behind with
    | .unclosed what => { tokens := [], unclosed := some (what, b :: behind) }
    | .token kind more =>
      let text := b :: behind.take more
      (lex text.getLast? (behind.drop more)).cons { kind, text }
  termination_by s => s.length
  decreasing_by
    simp only [List.length_drop, List.length_cons]
    omega

/-- The text that was lexed. -/
def Lexed.text (lexed : Lexed) : List UInt8 :=
  lexed.tokens.flatMap Token.text ++ (lexed.unclosed.map Prod.snd).getD []

theorem lex_text (prev : Option UInt8) (s : List UInt8) : (lex prev s).text = s := by
  fun_induction lex prev s with
  | case1 => rfl
  | case2 => simp [Lexed.text]
  | case3 prev b behind kind more h text ih =>
    simp only [Lexed.text] at ih
    simp [Lexed.text, Lexed.cons, ih, text]

end NamedSql.Sql
