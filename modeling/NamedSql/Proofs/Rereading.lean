/-
Lexing a compiled query again.

The output is read in step with the query, token by token, up to the first place where a
placeholder clashes with its neighbour.  There are two ways to clash: a `$` before a marker
opens a quote with the `$` of the placeholder, and behind a `?` a marker or a dollar quote
can start that could not behind a name.

* `clashes` — whether the front of a token list reads otherwise in the output;
* `relexed` — the tokens of the query up to the first clash, and what the output gives
  from there on;
* `lex_substitute` — that is the lexical structure of the output.
-/
import NamedSql.Proofs.Lookahead
import NamedSql.Proofs.PlaceholderTokens
import NamedSql.Proofs.Rewriting

namespace NamedSql.Sql

/-- The last byte of the token before, if there is one. -/
def lastByte (last : Option Token) : Option UInt8 :=
  last.bind fun token => token.text.getLast?

/-- A text that starts with a marker or a dollar quote, but not behind an identifier byte. -/
def opensBehind : List UInt8 → Bool
  | [] => false
  | b :: behind =>
    b = Byte.colon && startsIdent behind || b = Byte.dollar && (dollarTag? none behind).isSome

/-- Whether the front of a token list reads otherwise in the output than in the query,
given the token before it. -/
def clashes (dialect : Dialect) (last : Option Token) (tokens : List Token) : Bool :=
  match dialect, tokens with
  | .dollar, token :: next :: _ =>
    token = { kind := .plain, text := [Byte.dollar] } && next.kind = .marker &&
      !followsIdent (lastByte last)
  | .question, _ =>
    last.any (fun token => token.kind = .marker) && opensBehind (tokens.flatMap Token.text)
  | _, _ => false

/-- The lexical structure of the output: that of the query with plain placeholders up to
the first clash, and what is read from there on. -/
def relexed (dialect : Dialect) (policy : NumberingPolicy) (table : ParameterTable)
    (last : Option Token) : List Token → Lexed
  | [] => { tokens := [], unclosed := none }
  | token :: rest =>
    if clashes dialect last (token :: rest) then
      lex none (substitute dialect policy table (token :: rest)).1
    else if token.kind = .marker then
      let (index, table) := table.number policy token.name
      (relexed dialect policy table (some token) rest).prepend
        (Utf8.encode (dialect.placeholder index))
    else (relexed dialect policy table (some token) rest).cons token

/-! ### The byte before -/

/-- The byte before the rest of the output, when `last` is the token before the rest `s` of
the query.  Behind a placeholder it is not the last byte of a name, but its own. -/
inductive Follows (dialect : Dialect) (s : List UInt8) : Option Token → Option UInt8 → Prop
  | same {last : Option Token} :
      last.any (fun token => token.kind = .marker) = false →
        Follows dialect s last (lastByte last)
  | placeholder {name : List UInt8} {b : UInt8} :
      IsName name → s.head?.any isIdentByte = false →
        (if dialect = .question then b = 0x3F else isIdentByte b = true) →
          Follows dialect s (some { kind := .marker, text := Byte.colon :: name }) (some b)

section

variable {dialect : Dialect} {s : List UInt8} {last : Option Token} {prev : Option UInt8}

/-- Behind a byte that is no identifier byte, output and query agree on it. -/
theorem Follows.eq_lastByte (h : Follows dialect s last prev)
    (hlast : followsIdent (lastByte last) = false) : prev = lastByte last := by
  cases h with
  | same => rfl
  | placeholder hname =>
    exact absurd (hname.followsIdent Byte.colon) (by simpa [lastByte] using hlast)

/-- Where the output does not follow an identifier, nor does the query, or a `?` stands
for the marker before. -/
theorem Follows.of_not_followsIdent (h : Follows dialect s last prev)
    (hprev : followsIdent prev = false) :
    followsIdent (lastByte last) = false ∨
      dialect = .question ∧ last.any (fun token => token.kind = .marker) = true ∧
        s.head?.any isIdentByte = false := by
  cases h with
  | same => exact .inl hprev
  | placeholder _ hhead hb =>
    by_cases hquestion : dialect = .question
    · exact .inr ⟨hquestion, rfl, hhead⟩
    · rw [if_neg hquestion] at hb
      simp [followsIdent, hb] at hprev

end

/-! ### The bytes behind -/

/-- Whether a token list starts with a marker. -/
def LeadsWithMarker (tokens : List Token) : Prop :=
  tokens.head?.any (fun token => token.kind = .marker) = true

section

variable {dialect : Dialect} {policy : NumberingPolicy} {table : ParameterTable}
  {prev : Option UInt8} {s : List UInt8}

/-- The output starts as the query does, or with the sigil of a placeholder. -/
theorem head_substitute (h : (lex prev s).unclosed = none) :
    (substitute dialect policy table (lex prev s).tokens).1.head? = s.head? ∨
      s.head? = some Byte.colon ∧ LeadsWithMarker (lex prev s).tokens ∧
        (substitute dialect policy table (lex prev s).tokens).1.head? = dialect.sigil.head? := by
  induction prev, s using lexInduction with
  | nil prev => exact .inl (by rw [lex_nil]; rfl)
  | token prev kind text rest htoken =>
    obtain ⟨b, tail, htext⟩ := htoken.eq_cons
    rw [lex_append htoken, Lexed.cons]
    by_cases hkind : kind = .marker
    · subst hkind
      refine .inr ⟨?_, rfl, ?_⟩
      · cases htoken with
        | marker => rfl
      · rw [substitute_marker _ rfl]
        exact head_placeholder dialect _ _
    · -- a token that is no marker stays, and it is not empty
      rw [substitute_skip _ (by simpa using hkind), htext]
      exact .inl rfl
  | unclosed prev what s hopen => simp [lex_of_isOpen hopen] at h

/-- A byte that starts the output and no placeholder starts the query. -/
theorem head_of_head_substitute (h : (lex prev s).unclosed = none) {c : UInt8}
    (hc : c ∉ [Byte.dollar, 0x3F, 0x40])
    (hhead : (substitute dialect policy table (lex prev s).tokens).1.head? = some c) :
    s.head? = some c := by
  rcases @head_substitute dialect policy table _ _ h with hsame | ⟨hcolon, -, hsigil⟩
  · rw [← hsame, hhead]
  · rw [hhead] at hsigil
    cases dialect with
    | colon =>
      obtain rfl : c = Byte.colon := Option.some.inj hsigil
      exact hcolon
    | _ =>
      obtain rfl := Option.some.inj hsigil
      exact absurd (by decide) hc

theorem startsIdent_of_substitute (h : (lex prev s).unclosed = none)
    (hident : startsIdent (substitute dialect policy table (lex prev s).tokens).1 = true) :
    startsIdent s = true := by
  rcases @head_substitute dialect policy table _ _ h with hsame | ⟨-, -, hsigil⟩
  · rw [startsIdent, hsame] at hident
    exact hident
  · rw [startsIdent, hsigil] at hident
    cases dialect <;> exact absurd hident (by decide)

end

/-- A token that starts with an identifier byte is that byte, or an escape string. -/
theorem IsToken.of_isIdentByte {prev : Option UInt8} {kind : TokenKind} {b : UInt8}
    {tail rest : List UInt8} (h : IsToken prev kind (b :: tail) rest)
    (hb : isIdentByte b = true) :
    kind = .plain ∧ tail = [] ∨ ∃ body, tail = Byte.quote :: body := by
  generalize htext : b :: tail = text at h
  -- of all openings only that of an escape string starts with such a byte
  cases h with
  | @region kind opening behind _ hopening =>
    cases hopening with
    | escapeString =>
      obtain ⟨-, rfl⟩ := List.cons.inj htext
      exact .inr ⟨_, rfl⟩
    | _ =>
      obtain ⟨rfl, -⟩ := List.cons.inj htext
      exact absurd hb (by decide)
  | cast =>
    obtain ⟨rfl, -⟩ := List.cons.inj htext
    exact absurd hb (by decide)
  | marker =>
    obtain ⟨rfl, -⟩ := List.cons.inj htext
    exact absurd hb (by decide)
  | plain =>
    obtain ⟨-, rfl⟩ := List.cons.inj htext
    exact .inl ⟨rfl, rfl⟩

/-- A tag and the `$` behind it stand in the query if they stand in the output: no marker
starts behind an identifier byte. -/
theorem tag_prefix_of_substitute {dialect : Dialect} {policy : NumberingPolicy}
    {table : ParameterTable} {prev : Option UInt8} {s tag : List UInt8}
    (h : (lex prev s).unclosed = none) (hprev : tag ≠ [] ∨ followsIdent prev = true)
    (htag : ∀ b ∈ tag, isIdentByte b = true)
    (hahead : tag ++ [Byte.dollar] <+: (substitute dialect policy table (lex prev s).tokens).1) :
    tag ++ [Byte.dollar] <+: s := by
  induction prev, s using lexInduction generalizing table tag with
  | nil prev =>
    rw [lex_nil] at hahead
    exact hahead
  | unclosed prev what s hopen => simp [lex_of_isOpen hopen] at h
  | token prev kind text rest htoken ih =>
    rw [lex_append htoken] at h hahead
    obtain ⟨b, tail, rfl⟩ := htoken.eq_cons
    by_cases hkind : kind = .marker
    · subst hkind
      rw [Lexed.cons, substitute_marker _ rfl] at hahead
      -- no sigil starts a tag, and within a tag no marker starts
      rcases hprev with hne | hident
      · obtain ⟨c, tag, rfl⟩ := List.exists_cons_of_ne_nil hne
        obtain ⟨after, hafter⟩ := hahead
        obtain ⟨d, hd, hnot, -⟩ := sigil_head dialect
        have hhead := congrArg List.head? hafter
        rw [head_placeholder, hd] at hhead
        obtain rfl : c = d := Option.some.inj hhead
        rw [htag c (by simp)] at hnot
        exact absurd hnot (by simp)
      · cases htoken with
        | marker hmay => rw [hmay.1] at hident; simp at hident
    · rw [Lexed.cons, substitute_skip _ (by simpa using hkind)] at hahead
      cases tag with
      | nil =>
        obtain ⟨after, hafter⟩ := hahead
        obtain ⟨rfl, -⟩ := List.cons.inj hafter
        exact ⟨tail ++ rest, rfl⟩
      | cons c tag =>
        obtain ⟨rfl, hbehind⟩ := List.cons_prefix_cons.mp hahead
        have hc := htag c (by simp)
        have htag := fun b hb => htag b (List.mem_cons_of_mem c hb)
        rcases htoken.of_isIdentByte hc with ⟨-, rfl⟩ | ⟨body, rfl⟩
        · exact List.cons_prefix_cons.mpr ⟨rfl, ih h (.inr hc) htag hbehind⟩
        -- an escape string has its quote where the tag would go on
        · obtain ⟨after, hafter⟩ := hbehind
          cases tag with
          | nil => exact absurd (List.cons.inj hafter).1 (by decide)
          | cons d tag =>
            obtain rfl : d = Byte.quote := (List.cons.inj hafter).1
            exact absurd (htag Byte.quote (by simp)) (by decide)

/-! ### One token -/

section

variable {dialect : Dialect} {policy : NumberingPolicy} {table : ParameterTable}
  {last : Option Token} {prev : Option UInt8}

/-- Whatever opens a region in the query opens it in the output. -/
theorem Follows.opening {s opening : List UInt8} {kind : RegionKind}
    (h : Follows dialect s last prev) (hopening : Opening (lastByte last) kind opening) :
    Opening prev kind opening := by
  cases hopening with
  | string => exact .string
  | quotedIdentifier => exact .quotedIdentifier
  | lineComment => exact .lineComment
  | blockComment => exact .blockComment
  | escapeString he hlast =>
    rw [h.eq_lastByte hlast]
    exact .escapeString he hlast
  | dollarQuoted htag hlast =>
    rw [h.eq_lastByte hlast]
    exact .dollarQuoted htag hlast

theorem not_opensBehind {token : Token} {rest : List UInt8}
    (hclosed : (lex prev rest).unclosed = none)
    (hclash : clashes .question last (token :: (lex prev rest).tokens) = false)
    (hlast : last.any (fun token => token.kind = .marker) = true) :
    opensBehind (token.text ++ rest) = false := by
  rw [clashes, hlast, List.flatMap_cons, flatMap_text_of_closed hclosed] at hclash
  simpa using hclash

/-- A tag behind a `$` of the output stands there in the query, or the `$` of a placeholder
ends it. -/
theorem tag_or_leadsWithMarker {b : UInt8} {rest tag : List UInt8}
    (hclosed : (lex (some b) rest).unclosed = none) (htag : tag = [] ∨ IsName tag)
    (hahead : tag ++ [Byte.dollar] <+:
      (substitute dialect policy table (lex (some b) rest).tokens).1) :
    tag ++ [Byte.dollar] <+: rest ∨
      dialect = .dollar ∧ LeadsWithMarker (lex (some b) rest).tokens := by
  -- without a name between its dollars the tag may be the mark of a placeholder
  rcases htag with rfl | hname
  · have hdollar : (substitute dialect policy table (lex (some b) rest).tokens).1.head? =
        some Byte.dollar := by
      obtain ⟨after, hafter⟩ := hahead
      rw [← hafter]
      rfl
    rcases @head_substitute dialect policy table _ _ hclosed with hsame | ⟨-, hleads, hsigil⟩
    · rw [hdollar] at hsame
      obtain ⟨after, rfl⟩ := List.head?_eq_some_iff.mp hsame.symm
      exact .inl ⟨after, rfl⟩
    · rw [hdollar] at hsigil
      refine .inr ⟨?_, hleads⟩
      cases dialect with
      | dollar => rfl
      | _ => exact absurd (Option.some.inj hsigil) (by decide)
  · have hne : tag ≠ [] := by
      rintro rfl
      exact absurd hname.1 (by decide)
    exact .inl (tag_prefix_of_substitute hclosed (.inl hne) hname.2 hahead)

theorem clashes_dollar {tokens : List Token} (hleads : LeadsWithMarker tokens)
    (hlast : followsIdent (lastByte last) = false) :
    clashes .dollar last ({ kind := .plain, text := [Byte.dollar] } :: tokens) = true := by
  cases tokens with
  | nil => exact absurd hleads (by simp [LeadsWithMarker])
  | cons next tokens =>
    have hkind : next.kind = .marker := by simpa [LeadsWithMarker] using hleads
    simp [clashes, hkind, hlast]

theorem opensBehind_dollar {tag rest : List UInt8} (htag : tag = [] ∨ IsName tag)
    (hahead : tag ++ [Byte.dollar] <+: rest) : opensBehind (Byte.dollar :: rest) = true := by
  have hsome : dollarTag? none rest = some tag := dollarTag?_eq_some_iff.mpr ⟨rfl, htag, hahead⟩
  simp [opensBehind, hsome]

/-- No region opens at a plain byte of the output. -/
theorem not_startsRegion_substitute {b : UInt8} {rest : List UInt8}
    (hregion : ¬ StartsRegion (lastByte last) (b :: rest))
    (hclosed : (lex (some b) rest).unclosed = none)
    (hfollows : Follows dialect (b :: rest) last prev)
    (hclash : clashes dialect last
      ({ kind := .plain, text := [b] } :: (lex (some b) rest).tokens) = false) :
    ¬ StartsRegion prev
      (b :: (substitute dialect policy table (lex (some b) rest).tokens).1) := by
  rintro ⟨kind, opening, hopening, hahead⟩
  have hhead {c : UInt8} (hc : c ∉ [Byte.dollar, 0x3F, 0x40])
      (h : (substitute dialect policy table (lex (some b) rest).tokens).1.head? = some c) :=
    head_of_head_substitute hclosed hc h
  cases hopening with
  | string =>
    obtain ⟨rfl, -⟩ := List.cons_prefix_cons.mp hahead
    exact hregion ⟨_, _, .string, rest, rfl⟩
  | quotedIdentifier =>
    obtain ⟨rfl, -⟩ := List.cons_prefix_cons.mp hahead
    exact hregion ⟨_, _, .quotedIdentifier, rest, rfl⟩
  | lineComment =>
    obtain ⟨rfl, hdash⟩ := pair_prefix_iff.mp hahead
    exact hregion ⟨_, _, .lineComment, pair_prefix_iff.mpr ⟨rfl, hhead (by decide) hdash⟩⟩
  | blockComment =>
    obtain ⟨rfl, hstar⟩ := pair_prefix_iff.mp hahead
    exact hregion ⟨_, _, .blockComment, pair_prefix_iff.mpr ⟨rfl, hhead (by decide) hstar⟩⟩
  | @escapeString e he hprev =>
    obtain ⟨rfl, hquote⟩ := pair_prefix_iff.mp hahead
    rcases hfollows.of_not_followsIdent hprev with hlast | ⟨-, -, hident⟩
    · exact hregion ⟨_, _, .escapeString he hlast,
        pair_prefix_iff.mpr ⟨rfl, hhead (by decide) hquote⟩⟩
    -- directly behind a marker, the letter would be part of the name
    · rw [List.head?_cons, Option.any_some] at hident
      rcases he with rfl | rfl <;> exact absurd hident (by decide)
  | @dollarQuoted tag htag hprev =>
    obtain ⟨rfl, htagged⟩ := List.cons_prefix_cons.mp hahead
    -- either a placeholder ends the delimiter, or one no longer keeps it from opening
    rcases hfollows.of_not_followsIdent hprev with hlast | ⟨rfl, hmarker, -⟩
    · rcases tag_or_leadsWithMarker hclosed htag htagged with hrest | ⟨rfl, hleads⟩
      · exact hregion ⟨_, _, .dollarQuoted htag hlast, List.cons_prefix_cons.mpr ⟨rfl, hrest⟩⟩
      · rw [clashes_dollar hleads hlast] at hclash
        exact absurd hclash (by simp)
    · rcases tag_or_leadsWithMarker hclosed htag htagged with hrest | ⟨hdollar, -⟩
      · have hopens := opensBehind_dollar htag hrest
        exact absurd hopens (by simpa using not_opensBehind hclosed hclash hmarker)
      · exact absurd hdollar (by decide)

/-- Where nothing clashes, the next token of the query is the next token of the output. -/
theorem IsToken.substitute {kind : TokenKind} {text rest : List UInt8}
    (h : IsToken (lastByte last) kind text rest) (hkind : kind ≠ .marker)
    (hclosed : (lex text.getLast? rest).unclosed = none)
    (hfollows : Follows dialect (text ++ rest) last prev)
    (hclash : clashes dialect last ({ kind, text } :: (lex text.getLast? rest).tokens) = false) :
    IsToken prev kind text
      (substitute dialect policy table (lex text.getLast? rest).tokens).1 := by
  cases h with
  | region hopening hclosing =>
    refine .region (hfollows.opening hopening) (hclosing.of_rest ?_ fun q hq => ?_)
    · rintro rfl
      rw [lex_nil]
      rfl
    · refine head_of_head_substitute hclosed ?_
      simp only [List.mem_cons, List.not_mem_nil, or_false] at hq
      rcases hq with rfl | rfl <;> decide
  | cast => exact .cast
  | marker => exact absurd rfl hkind
  | @plain b _ hregion hcast hmarker =>
    refine .plain (not_startsRegion_substitute hregion hclosed hfollows hclash) ?_ ?_
    · rintro hpair
      obtain ⟨rfl, hcolon⟩ := pair_prefix_iff.mp hpair
      exact hcast (pair_prefix_iff.mpr ⟨rfl, head_of_head_substitute hclosed (by decide) hcolon⟩)
    · rintro ⟨hprev, behind, hbehind, hident⟩
      obtain ⟨rfl, rfl⟩ := List.cons.inj hbehind
      have hrest : startsIdent rest = true := startsIdent_of_substitute hclosed hident
      rcases hfollows.of_not_followsIdent hprev.1 with hlast | ⟨rfl, hlast, -⟩
      · rw [hfollows.eq_lastByte hlast] at hprev
        exact hmarker ⟨hprev, rest, rfl, hrest⟩
      · have hopens : opensBehind (Byte.colon :: rest) = true := by simp [opensBehind, hrest]
        exact absurd hopens (by simpa using not_opensBehind hclosed hclash hlast)

end

/-! ### The output -/

section

variable {dialect : Dialect} {policy : NumberingPolicy} {table : ParameterTable}

/-- What the output gives from a clash on does not depend on what stands before. -/
theorem lex_of_clashes {last : Option Token} {prev : Option UInt8} {s : List UInt8}
    {tokens : List Token} (hfollows : Follows dialect s last prev)
    (hclash : clashes dialect last tokens = true) :
    lex prev (substitute dialect policy table tokens).1 =
      lex none (substitute dialect policy table tokens).1 := by
  cases dialect with
  | dollar =>
    match tokens, hclash with
    | token :: next :: rest, hclash =>
      simp only [clashes, Bool.and_eq_true, decide_eq_true_eq, Bool.not_eq_true'] at hclash
      obtain ⟨⟨rfl, -⟩, hlast⟩ := hclash
      rw [hfollows.eq_lastByte hlast, substitute_skip _ (by simp)]
      exact lex_congr hlast (fun hcolon => absurd (Option.some.inj hcolon) (by decide))
  | question =>
    simp only [clashes, Bool.and_eq_true] at hclash
    cases hfollows with
    | same hlast =>
      rw [hlast] at hclash
      exact absurd hclash.1 (by simp)
    | placeholder _ _ hb =>
      obtain rfl := hb
      exact lex_congr rfl (fun _ => by decide)
  | atP => simp [clashes] at hclash
  | colon => simp [clashes] at hclash

/-- **The output read again.** -/
theorem lex_substitute {last : Option Token} {prev : Option UInt8} {s : List UInt8}
    (hclosed : (lex (lastByte last) s).unclosed = none) (hfollows : Follows dialect s last prev) :
    lex prev (substitute dialect policy table (lex (lastByte last) s).tokens).1 =
      relexed dialect policy table last (lex (lastByte last) s).tokens := by
  -- the induction is on the query; the output keeps step behind a byte of its own
  generalize hlast : lastByte last = before at hclosed
  induction before, s using lexInduction generalizing last prev table with
  | nil before =>
    rw [lex_nil]
    exact lex_nil prev
  | unclosed before what s hopen => simp [lex_of_isOpen hopen] at hclosed
  | token before kind text rest htoken ih =>
    subst hlast
    rw [lex_append htoken] at hclosed ⊢
    rw [Lexed.cons, relexed]
    split
    · next hclash => exact lex_of_clashes hfollows hclash
    next hclash =>
    by_cases hkind : kind = .marker
    · subst hkind
      rw [if_pos rfl, substitute_marker _ rfl, lex_placeholder]
      refine congrArg (Lexed.prepend _) (ih ?_ rfl hclosed)
      obtain ⟨b, hb, hbyte⟩ :=
        getLast?_placeholder dialect (table.number policy (Token.name ⟨.marker, text⟩)).1
      cases htoken with
      | marker _ hname hrest =>
        rw [hb]
        exact .placeholder hname hrest hbyte
    · rw [if_neg hkind, substitute_skip _ hkind,
        lex_append (htoken.substitute hkind hclosed hfollows (by simpa using hclash))]
      refine congrArg (Lexed.cons _) (ih ?_ rfl hclosed)
      exact .same (by simpa using hkind)

end

end NamedSql.Sql
