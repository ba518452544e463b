/-
What a token can see of the text behind it.

A token takes notice of the byte right behind it and, when it could be the `$` of a quote, of
the tag that follows.  So it stays the same token before another text that shows nothing of
this that the first one did not show.

* `Covers` — a text shows everything that another one would;
* `IsToken.of_covers` — a token stays one before a text that shows no more;
* `lex_append_of_covers` — tokens in front of a text stay when another text comes in its place;
* `lex_congr` — the byte before a text matters only in two ways.
-/
import NamedSql.Proofs.Lexing

namespace NamedSql.Sql

/-- The bytes that a token can take notice of right behind it, besides those of identifiers. -/
def watchedBytes : List UInt8 :=
  [Byte.quote, Byte.doubleQuote, Byte.dash, Byte.star, Byte.colon, Byte.dollar]

/-- Whatever a token could take notice of at the front of `rest'` stands at the front of
`rest` as well. -/
structure Covers (rest rest' : List UInt8) : Prop where
  /-- A line comment without a line feed ends at the end of the text only. -/
  stop : rest = [] → rest' = []
  byte : ∀ b ∈ watchedBytes, rest'.head? = some b → rest.head? = some b
  identByte : rest'.head?.any isIdentByte = true → rest.head?.any isIdentByte = true
  ident : startsIdent rest' = true → startsIdent rest = true
  /-- Of a tag, it matters that a `$` follows its last byte. -/
  tag : (rest'.dropWhile isIdentByte).head? = some Byte.dollar →
    (rest.dropWhile isIdentByte).head? = some Byte.dollar

namespace Covers

variable {rest rest' : List UInt8}

theorem refl (rest : List UInt8) : Covers rest rest :=
  ⟨id, fun _ _ => id, id, id, id⟩

/-- The end of a text shows nothing. -/
theorem nil (rest : List UInt8) : Covers rest [] where
  stop _ := rfl
  byte _ _ h := absurd h (by simp)
  identByte h := absurd h (by simp)
  ident h := absurd h (by simp [startsIdent])
  tag h := absurd h (by simp)

theorem cons (h : Covers rest rest') (b : UInt8) : Covers (b :: rest) (b :: rest') where
  stop hnil := absurd hnil (List.cons_ne_nil b rest)
  byte _ _ := id
  identByte := id
  ident := id
  tag := by
    intro htag
    by_cases hb : isIdentByte b = true
    · rw [List.dropWhile_cons_of_pos hb] at htag ⊢
      exact h.tag htag
    · rw [List.dropWhile_cons_of_neg hb] at htag ⊢
      exact htag

theorem append (h : Covers rest rest') (front : List UInt8) :
    Covers (front ++ rest) (front ++ rest') := by
  induction front with
  | nil => exact h
  | cons b front ih => exact ih.cons b

/-- Behind a byte that is no identifier byte, nothing can be seen. -/
theorem of_not_isIdentByte {b : UInt8} (hb : isIdentByte b = false) (rest rest' : List UInt8) :
    Covers (b :: rest) (b :: rest') where
  stop h := absurd h (List.cons_ne_nil b rest)
  byte _ _ := id
  identByte := id
  ident := id
  tag h := by
    rw [List.dropWhile_cons_of_neg (by simp [hb])] at h ⊢
    exact h

end Covers

/-! ### One token -/

/-- A region ends where it did when nothing new stands behind it. -/
theorem Closing.of_rest {kind : RegionKind} {opening tail rest rest' : List UInt8}
    (h : Closing kind opening tail rest) (hnil : rest = [] → rest' = [])
    (hhead : ∀ q ∈ [Byte.quote, Byte.doubleQuote], rest'.head? = some q → rest.head? = some q) :
    Closing kind opening tail rest' := by
  cases h with
  | string hbody hrest => exact .string hbody fun hq => hrest (hhead _ (by simp) hq)
  | quotedIdentifier hbody hrest =>
    exact .quotedIdentifier hbody fun hq => hrest (hhead _ (by simp) hq)
  | escapeString hbody hrest => exact .escapeString hbody fun hq => hrest (hhead _ (by simp) hq)
  | line hbody => exact .line hbody
  | lastLine hbody =>
    rw [hnil rfl]
    exact .lastLine hbody
  | blockComment htail => exact .blockComment htail
  | dollarQuoted hbody => exact .dollarQuoted hbody

section

variable {prev : Option UInt8} {rest rest' : List UInt8}

theorem exists_dollarTag?_of_covers {tag' : List UInt8} (h : Covers rest rest')
    (htag : dollarTag? prev rest' = some tag') : ∃ tag, dollarTag? prev rest = some tag := by
  rw [dollarTag?] at htag ⊢
  split at htag
  · exact absurd htag (by simp)
  next hprev =>
  rw [if_neg hprev]
  split
  · exact ⟨[], rfl⟩
  next hdollar =>
  split at htag
  · next hdollar' => exact absurd (h.byte _ (by decide) hdollar') hdollar
  split at htag
  · next htagged => exact ⟨_, if_pos ⟨h.ident htagged.1, h.tag htagged.2⟩⟩
  · exact absurd htag (by simp)

theorem StartsRegion.of_covers {b : UInt8} (hstarts : StartsRegion prev (b :: rest'))
    (h : Covers rest rest') : StartsRegion prev (b :: rest) := by
  have hpair {c d : UInt8} (hd : d ∈ watchedBytes) (hahead : [c, d] <+: b :: rest') :
      [c, d] <+: b :: rest := by
    obtain ⟨hb, hhead⟩ := pair_prefix_iff.mp hahead
    exact pair_prefix_iff.mpr ⟨hb, h.byte d hd hhead⟩
  obtain ⟨kind, opening, hopening, hahead⟩ := hstarts
  cases hopening with
  | string => exact ⟨_, _, .string, List.cons_prefix_cons.mpr
      ⟨(List.cons_prefix_cons.mp hahead).1, List.nil_prefix⟩⟩
  | quotedIdentifier => exact ⟨_, _, .quotedIdentifier, List.cons_prefix_cons.mpr
      ⟨(List.cons_prefix_cons.mp hahead).1, List.nil_prefix⟩⟩
  | escapeString he hprev => exact ⟨_, _, .escapeString he hprev, hpair (by decide) hahead⟩
  | lineComment => exact ⟨_, _, .lineComment, hpair (by decide) hahead⟩
  | blockComment => exact ⟨_, _, .blockComment, hpair (by decide) hahead⟩
  | dollarQuoted htag hprev =>
    obtain ⟨rfl, htagged⟩ := List.cons_prefix_cons.mp hahead
    -- the delimiter need not be the same one
    obtain ⟨other, hother⟩ := exists_dollarTag?_of_covers h
      (dollarTag?_eq_some_iff.mpr ⟨hprev, htag, htagged⟩)
    obtain ⟨-, hother, hahead⟩ := dollarTag?_eq_some_iff.mp hother
    exact ⟨_, _, .dollarQuoted hother hprev, List.cons_prefix_cons.mpr ⟨rfl, hahead⟩⟩

/-- A token stays one before a text that shows no more than the one behind it. -/
theorem IsToken.of_covers {kind : TokenKind} {text : List UInt8}
    (htoken : IsToken prev kind text rest) (h : Covers rest rest') :
    IsToken prev kind text rest' := by
  -- what a token asks of the rest is that something is not in front of it
  cases htoken with
  | region hopening hclosing =>
    refine .region hopening (hclosing.of_rest h.stop fun q hq => h.byte q ?_)
    simp only [List.mem_cons, List.not_mem_nil, or_false] at hq
    rcases hq with rfl | rfl <;> decide
  | cast => exact .cast
  | marker hprev hname hrest =>
    refine .marker hprev hname (Bool.eq_false_iff.mpr fun hident => ?_)
    rw [h.identByte hident] at hrest
    exact absurd hrest (by simp)
  | plain hregion hcast hmarker =>
    refine .plain (fun hstarts => hregion (hstarts.of_covers h)) (fun hpair => hcast ?_) ?_
    · obtain ⟨hb, hcolon⟩ := pair_prefix_iff.mp hpair
      exact pair_prefix_iff.mpr ⟨hb, h.byte _ (by decide) hcolon⟩
    · rintro ⟨hprev, behind, hbehind, hident⟩
      obtain ⟨rfl, rfl⟩ := List.cons.inj hbehind
      exact hmarker ⟨hprev, rest, rfl, h.ident hident⟩

end

/-! ### Many tokens -/

/-- Put tokens in front. -/
def Lexed.prependTokens (tokens : List Token) (lexed : Lexed) : Lexed :=
  { lexed with tokens := tokens ++ lexed.tokens }

/-- The first token, and how the text goes on behind it. -/
theorem exists_isToken_of_lex {prev : Option UInt8} {s : List UInt8} {token : Token}
    {tokens : List Token} (h : (lex prev s).tokens = token :: tokens) :
    ∃ rest, s = token.text ++ rest ∧ IsToken prev token.kind token.text rest ∧
      (lex token.text.getLast? rest).tokens = tokens := by
  cases s with
  | nil => exact absurd h (by simp [lex_nil])
  | cons b s =>
    rcases exists_isToken_or_isOpen prev b s with ⟨kind, text, rest, rfl, htoken⟩ | ⟨what, hopen⟩
    · rw [← List.cons_append, lex_append htoken] at h
      obtain ⟨rfl, htokens⟩ := List.cons.inj h
      exact ⟨rest, rfl, htoken, htokens⟩
    · rw [lex_of_isOpen hopen] at h
      exact absurd h (by simp)

/-- Tokens that end in front of `behind` stand before any text that it covers. -/
theorem lex_append_of_covers {prev : Option UInt8} {front behind behind' : List UInt8}
    {before after : List Token} (h : Covers behind behind')
    (htokens : (lex prev (front ++ behind)).tokens = before ++ after)
    (hfront : before.flatMap Token.text = front) :
    lex prev (front ++ behind') =
      (lex (front.getLast?.or prev) behind').prependTokens before := by
  -- by induction on the tokens in front; each sees behind it no more than before
  induction before generalizing prev front with
  | nil =>
    obtain rfl : [] = front := hfront
    rfl
  | cons token before ih =>
    obtain ⟨rest, hrest, htoken, hbefore⟩ := exists_isToken_of_lex htokens
    obtain rfl : token.text ++ before.flatMap Token.text = front := hfront
    rw [List.append_assoc] at hrest
    obtain rfl := List.append_cancel_left hrest
    rw [List.append_assoc, lex_append (htoken.of_covers (h.append _)), ih hbefore rfl,
      htoken.getLast?_append]
    rfl

/-! ### The byte before -/

theorem IsName.followsIdent {name : List UInt8} (h : IsName name) (b : UInt8) :
    followsIdent (b :: name).getLast? = true := by
  obtain ⟨hstart, hbytes⟩ := h
  cases name with
  | nil => simp [startsIdent] at hstart
  | cons c name =>
    rw [List.getLast?_cons_cons, List.getLast?_eq_some_getLast (List.cons_ne_nil c name)]
    exact hbytes _ (List.getLast_mem _)

/-- The byte before a text matters only in two ways. -/
theorem lex_congr {prev prev' : Option UInt8} {s : List UInt8}
    (hident : followsIdent prev = followsIdent prev')
    (hcolon : s.head? = some Byte.colon → (prev = some Byte.colon ↔ prev' = some Byte.colon)) :
    lex prev s = lex prev' s := by
  cases s with
  | nil => rw [lex_nil, lex_nil]
  | cons b behind =>
    have htag : dollarTag? prev behind = dollarTag? prev' behind := by
      rw [dollarTag?, dollarTag?, hident]
    have hmarker : b = Byte.colon → startsMarker prev behind = startsMarker prev' behind := by
      rintro rfl
      rw [Bool.eq_iff_iff, startsMarker_iff, startsMarker_iff, MayPrecedeMarker,
        MayPrecedeMarker, hident, ne_eq, ne_eq, hcolon rfl]
    -- only a marker also asks whether the byte before is a colon
    have hfront : front prev b behind = front prev' b behind := by
      by_cases hb : b = Byte.colon
      · rw [hb, front_colon, front_colon, hmarker hb]
      · simp only [front, hident, htag, if_neg hb]
    rw [lex, lex, hfront]

/-- Behind an identifier byte it does not matter which one it is. -/
theorem lex_behind_ident {prev prev' : Option UInt8} (h : followsIdent prev = true)
    (h' : followsIdent prev' = true) (s : List UInt8) : lex prev s = lex prev' s := by
  have hne {before : Option UInt8} (hbefore : followsIdent before = true) :
      before ≠ some Byte.colon := by
    rintro rfl
    exact absurd hbefore (by decide)
  exact lex_congr (h.trans h'.symm) fun _ => iff_of_false (hne h) (hne h')

end NamedSql.Sql
