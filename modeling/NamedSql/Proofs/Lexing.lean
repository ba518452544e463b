/-
The lexer follows the grammar.

* `dollarTag?_eq_some_iff` — the tag of a dollar quote is the one the grammar allows;
* `front_of_isToken`, `isToken_of_front` — the token at the front of a text;
* `front_of_isOpen`, `isOpen_of_front` — a region left open;
* `lex_append`, `lex_of_isOpen` — one step of the lexer, said by the grammar;
* `lexInduction` — induction over a text, token by token.
-/
import NamedSql.Proofs.Extent

namespace NamedSql.Sql

/-! ### Names -/

theorem pair_prefix_iff {a b c : UInt8} {s : List UInt8} :
    [a, c] <+: b :: s ↔ b = a ∧ s.head? = some c := by
  cases s <;> simp [eq_comm]

theorem not_isIdentByte_dollar : isIdentByte Byte.dollar = false := by decide

/-- A run of identifier bytes ends where the next byte is none. -/
theorem identRun_append {name rest : List UInt8} (hname : ∀ b ∈ name, isIdentByte b = true)
    (hrest : rest.head?.any isIdentByte = false) : identRun (name ++ rest) = name := by
  rw [identRun, List.takeWhile_append_of_pos hname]
  cases rest with
  | nil => simp
  | cons b rest =>
    have hb : isIdentByte b = false := by simpa using hrest
    simp [hb]

theorem dropWhile_append {name rest : List UInt8} (hname : ∀ b ∈ name, isIdentByte b = true)
    (hrest : rest.head?.any isIdentByte = false) :
    (name ++ rest).dropWhile isIdentByte = rest := by
  rw [List.dropWhile_append_of_pos hname]
  cases rest with
  | nil => rfl
  | cons b rest =>
    have hb : isIdentByte b = false := by simpa using hrest
    simp [hb]

/-- Where an identifier starts, the run of identifier bytes is a name. -/
theorem exists_name_of_startsIdent {s : List UInt8} (h : startsIdent s = true) :
    ∃ name rest, s = name ++ rest ∧ IsName name ∧ rest.head?.any isIdentByte = false := by
  refine ⟨s.takeWhile isIdentByte, s.dropWhile isIdentByte, by simp, ⟨?_, ?_⟩, ?_⟩
  · cases s with
    | nil => simp [startsIdent] at h
    | cons b s =>
      have hb : isIdentStart b = true := by simpa [startsIdent] using h
      simp [startsIdent, isIdentByte_of_isIdentStart hb, hb]
  · intro b hb
    exact List.all_eq_true.mp List.all_takeWhile b hb
  · cases hdrop : s.dropWhile isIdentByte with
    | nil => rfl
    | cons b rest =>
      have hb := List.head?_dropWhile_not isIdentByte s
      simpa [hdrop] using hb

theorem IsName.startsIdent_append {name : List UInt8} (h : IsName name) (rest : List UInt8) :
    startsIdent (name ++ rest) = true := by
  obtain ⟨hstart, -⟩ := h
  cases name with
  | nil => simp [startsIdent] at hstart
  | cons b name => exact hstart

theorem dollarTag?_eq_some_iff {prev : Option UInt8} {s tag : List UInt8} :
    dollarTag? prev s = some tag ↔
      followsIdent prev = false ∧ (tag = [] ∨ IsName tag) ∧ tag ++ [Byte.dollar] <+: s := by
  constructor
  · intro h
    rw [dollarTag?] at h
    split at h
    · simp at h
    next hprev =>
    refine ⟨by simpa using hprev, ?_⟩
    split at h
    · next hhead =>
      obtain rfl : [] = tag := Option.some.inj h
      cases s with
      | nil => simp at hhead
      | cons b s => simpa [eq_comm] using hhead
    split at h
    · next hident =>
      obtain ⟨name, rest, rfl, hname, hrest⟩ := exists_name_of_startsIdent hident.1
      rw [identRun_append hname.2 hrest] at h
      obtain rfl : name = tag := Option.some.inj h
      have hhead := hident.2
      rw [dropWhile_append hname.2 hrest] at hhead
      obtain ⟨tail, rfl⟩ := List.head?_eq_some_iff.mp hhead
      exact ⟨.inr hname, ⟨tail, by simp⟩⟩
    · simp at h
  · rintro ⟨hprev, htag, rest, rfl⟩
    rw [dollarTag?, if_neg (by simp [hprev])]
    rcases htag with rfl | hname
    · rfl
    · -- the closing dollar ends the name, for no name goes on with it
      have hdollar : ([Byte.dollar] ++ rest).head?.any isIdentByte = false := by
        simp [not_isIdentByte_dollar]
      rw [List.append_assoc, if_neg, if_pos, identRun_append hname.2 hdollar]
      · exact ⟨hname.startsIdent_append _, by rw [dropWhile_append hname.2 hdollar]; rfl⟩
      · intro hhead
        have hstart := hname.startsIdent_append ([Byte.dollar] ++ rest)
        rw [startsIdent, hhead] at hstart
        exact absurd hstart (by decide)

/-! ### The front of a text -/

theorem startsMarker_iff {prev : Option UInt8} {s : List UInt8} :
    startsMarker prev s = true ↔ MayPrecedeMarker prev ∧ startsIdent s = true := by
  simp [startsMarker, MayPrecedeMarker]

/-- Where a delimiter opens a region that may stay open, its extent decides. -/
theorem front_of_opening {prev : Option UInt8} {kind : RegionKind} {what : Unclosed}
    {opening behind s : List UInt8} {b : UInt8} (h : Opening prev kind opening)
    (hwhat : kind.unclosed? = some what) (hs : b :: s = opening ++ behind) :
    front prev b s =
      .ofExtent kind what (opening.length - 1) (closingExtent kind opening behind) := by
  -- the bytes of the opening decide the branch, since the branches before it ask for other ones
  cases h with
  | string =>
    obtain rfl : .stringLiteral = what := Option.some.inj hwhat
    obtain ⟨rfl, rfl⟩ := List.cons.inj hs
    rw [front, if_pos rfl]
    rfl
  | quotedIdentifier =>
    obtain rfl : .quotedIdentifier = what := Option.some.inj hwhat
    obtain ⟨rfl, rfl⟩ := List.cons.inj hs
    rw [front, if_neg (by decide), if_pos rfl]
    rfl
  | @escapeString e he hprev =>
    obtain rfl : .stringLiteral = what := Option.some.inj hwhat
    obtain ⟨rfl, rfl⟩ := List.cons.inj hs
    have hquotes : b ≠ Byte.quote ∧ b ≠ Byte.doubleQuote := by
      rcases he with rfl | rfl <;> decide
    rw [front, if_neg hquotes.1, if_neg hquotes.2, if_pos ⟨he, rfl, hprev⟩]
    rfl
  | lineComment => simp [RegionKind.unclosed?] at hwhat
  | blockComment =>
    obtain rfl : .blockComment = what := Option.some.inj hwhat
    obtain ⟨rfl, rfl⟩ := List.cons.inj hs
    rw [front, if_neg (by decide), if_neg (by decide), if_neg (fun h => absurd h.1 (by decide)),
      if_neg (fun h => absurd h.1 (by decide)), if_pos ⟨rfl, rfl⟩]
    rfl
  | @dollarQuoted tag htag hprev =>
    obtain rfl : .dollarQuote = what := Option.some.inj hwhat
    obtain ⟨rfl, rfl⟩ := List.cons.inj hs
    have htag? : dollarTag? prev (tag ++ [Byte.dollar] ++ behind) = some tag :=
      dollarTag?_eq_some_iff.mpr ⟨hprev, htag, List.prefix_append _ _⟩
    rw [front, if_neg (by decide), if_neg (by decide), if_neg (fun h => absurd h.1 (by decide)),
      if_neg (fun h => absurd h.1 (by decide)), if_neg (fun h => absurd h.1 (by decide)),
      if_pos rfl]
    simp only [List.append_eq]
    rw [htag?]
    simp [dollarDelimiter, closingExtent]

theorem front_of_lineComment (prev : Option UInt8) (behind : List UInt8) :
    front prev Byte.dash (Byte.dash :: behind) =
      .token (.region .lineComment) (1 + lineExtent behind) := by
  rw [front, if_neg (by decide), if_neg (by decide), if_neg (fun h => absurd h.1 (by decide)),
    if_pos ⟨rfl, rfl⟩]
  rfl

/-- What keeps a region from opening, byte by byte. -/
theorem not_startsRegion {prev : Option UInt8} {b : UInt8} {s : List UInt8}
    (h : ¬ StartsRegion prev (b :: s)) :
    b ≠ Byte.quote ∧ b ≠ Byte.doubleQuote ∧
      ¬ ((b = Byte.upperE ∨ b = Byte.lowerE) ∧ s.head? = some Byte.quote ∧
        followsIdent prev = false) ∧
      ¬ (b = Byte.dash ∧ s.head? = some Byte.dash) ∧
      ¬ (b = Byte.slash ∧ s.head? = some Byte.star) ∧
      (b = Byte.dollar → dollarTag? prev s = none) := by
  -- each way to start a region would be an opening in front
  have hne {kind : RegionKind} {opening : List UInt8} (hopening : Opening prev kind opening) :
      ¬ opening <+: b :: s := fun hahead => h ⟨kind, opening, hopening, hahead⟩
  refine ⟨?_, ?_, ?_, ?_, ?_, fun hdollar => ?_⟩
  · rintro rfl
    exact hne .string (by simp)
  · rintro rfl
    exact hne .quotedIdentifier (by simp)
  · rintro ⟨he, hhead, hprev⟩
    exact hne (.escapeString he hprev) (pair_prefix_iff.mpr ⟨rfl, hhead⟩)
  · intro hdash
    exact hne .lineComment (pair_prefix_iff.mpr hdash)
  · intro hslash
    exact hne .blockComment (pair_prefix_iff.mpr hslash)
  · rw [Option.eq_none_iff_forall_ne_some]
    intro tag htag
    obtain ⟨hprev, htag, hahead⟩ := dollarTag?_eq_some_iff.mp htag
    exact hne (.dollarQuoted htag hprev) (by simpa [dollarDelimiter, hdollar] using hahead)

/-- Where no region opens, only a colon can be more than a plain byte. -/
theorem front_of_not_startsRegion {prev : Option UInt8} {b : UInt8} {s : List UInt8}
    (h : ¬ StartsRegion prev (b :: s)) :
    front prev b s =
      if b = Byte.colon then
        if s.head? = some Byte.colon then .token .cast 1
        else if startsMarker prev s then .token .marker (identRun s).length
        else .token .plain 0
      else .token .plain 0 := by
  obtain ⟨hquote, hdoubleQuote, hescape, hline, hblock, htag⟩ := not_startsRegion h
  rw [front, if_neg hquote, if_neg hdoubleQuote, if_neg hescape, if_neg hline, if_neg hblock]
  by_cases hdollar : b = Byte.dollar
  · rw [if_pos hdollar, htag hdollar, if_neg (by rw [hdollar]; decide)]
  · rw [if_neg hdollar]

/-- An opening delimiter is never empty. -/
theorem Opening.length_pos {prev : Option UInt8} {kind : RegionKind} {opening : List UInt8}
    (h : Opening prev kind opening) : 0 < opening.length := by
  cases h <;> simp [dollarDelimiter]

theorem front_of_closing {prev : Option UInt8} {kind : RegionKind}
    {opening tail rest s : List UInt8} {b : UInt8} (hopening : Opening prev kind opening)
    (hclosing : Closing kind opening tail rest) (hs : b :: s = opening ++ tail ++ rest) :
    front prev b s = .token (.region kind) (opening.length - 1 + tail.length) := by
  rw [List.append_assoc] at hs
  cases hwhat : kind.unclosed? with
  | some what =>
    rw [front_of_opening hopening hwhat hs, closingExtent_complete hclosing]
    rfl
  | none =>
    -- only a line comment cannot stay open
    cases hopening with
    | lineComment =>
      obtain ⟨rfl, rfl⟩ := List.cons.inj hs
      have hextent := closingExtent_complete hclosing
      have hlength : lineExtent (tail ++ rest) = tail.length := Option.some.inj hextent
      exact (front_of_lineComment prev (tail ++ rest)).trans (by rw [hlength]; rfl)
    | _ => simp [RegionKind.unclosed?] at hwhat

/-- The bytes that a region can open with. -/
theorem head_of_startsRegion {prev : Option UInt8} {b : UInt8} {s : List UInt8}
    (h : StartsRegion prev (b :: s)) :
    b ∈ [Byte.quote, Byte.doubleQuote, Byte.upperE, Byte.lowerE, Byte.dash, Byte.slash,
      Byte.dollar] := by
  obtain ⟨kind, opening, hopening, rest, hrest⟩ := h
  cases hopening with
  | @escapeString e he =>
    obtain rfl : e = b := (List.cons.inj hrest).1
    rcases he with rfl | rfl <;> decide
  | _ =>
    obtain rfl := (List.cons.inj hrest).1
    decide

theorem not_startsRegion_colon (prev : Option UInt8) (s : List UInt8) :
    ¬ StartsRegion prev (Byte.colon :: s) := fun h =>
  absurd (head_of_startsRegion h) (by decide)

theorem front_colon (prev : Option UInt8) (s : List UInt8) :
    front prev Byte.colon s =
      if s.head? = some Byte.colon then .token .cast 1
      else if startsMarker prev s then .token .marker (identRun s).length
      else .token .plain 0 := by
  rw [front_of_not_startsRegion (not_startsRegion_colon prev s), if_pos rfl]

/-- The token that the grammar sees at the front of a text is the one that is read. -/
theorem front_of_isToken {prev : Option UInt8} {kind : TokenKind} {b : UInt8}
    {text rest : List UInt8} (h : IsToken prev kind (b :: text) rest) :
    front prev b (text ++ rest) = .token kind text.length := by
  generalize htext : b :: text = whole at h
  cases h with
  | @region kind opening tail _ hopening hclosing =>
    -- `front` counts from behind the first byte
    have hlength := congrArg List.length htext
    simp only [List.length_cons, List.length_append] at hlength
    have hpos := hopening.length_pos
    rw [front_of_closing hopening hclosing (by rw [← htext]; rfl)]
    congr 1
    omega
  | cast =>
    obtain ⟨rfl, rfl⟩ := List.cons.inj htext
    exact (front_colon prev _).trans (if_pos rfl)
  | @marker name _ hprev hname hrest =>
    obtain ⟨rfl, rfl⟩ := List.cons.inj htext
    have hstart := hname.startsIdent_append rest
    have hhead : (text ++ rest).head? ≠ some Byte.colon := by
      intro hhead
      rw [startsIdent, hhead] at hstart
      exact absurd hstart (by decide)
    rw [front_colon, if_neg hhead, if_pos (startsMarker_iff.mpr ⟨hprev, hstart⟩),
      identRun_append hname.2 hrest]
  | plain hregion hcast hmarker =>
    obtain ⟨rfl, rfl⟩ := List.cons.inj htext
    rw [List.nil_append, front_of_not_startsRegion hregion]
    by_cases hb : b = Byte.colon
    · subst hb
      rw [if_pos rfl, if_neg (fun hhead => hcast (pair_prefix_iff.mpr ⟨rfl, hhead⟩)), if_neg]
      · rfl
      · intro hstart
        obtain ⟨hprev, hident⟩ := startsMarker_iff.mp hstart
        exact hmarker ⟨hprev, rest, rfl, hident⟩
    · rw [if_neg hb]
      rfl

theorem front_of_isOpen {prev : Option UInt8} {what : Unclosed} {b : UInt8} {s : List UInt8}
    (h : IsOpen prev what (b :: s)) : front prev b s = .unclosed what := by
  obtain ⟨kind, opening, behind, hs, hopening, hwhat, hnone⟩ := h
  rw [front_of_opening hopening hwhat hs, closingExtent_eq_none_iff.mpr hnone]
  rfl

/-- At the front of a text stands a token, or a region is left open. -/
theorem exists_isToken_or_isOpen (prev : Option UInt8) (b : UInt8) (s : List UInt8) :
    (∃ kind text rest, s = text ++ rest ∧ IsToken prev kind (b :: text) rest) ∨
      ∃ what, IsOpen prev what (b :: s) := by
  -- what is neither region, cast nor marker is a plain byte, so a token always fits
  by_cases hregion : StartsRegion prev (b :: s)
  · obtain ⟨kind, opening, hopening, behind, hbehind⟩ := hregion
    cases hextent : closingExtent kind opening behind with
    | some n =>
      obtain ⟨tail, rest, rfl, -, hclosing⟩ := closingExtent_sound hextent
      obtain ⟨c, opening, rfl⟩ := List.exists_cons_of_length_pos hopening.length_pos
      obtain ⟨rfl, rfl⟩ := List.cons.inj hbehind
      exact .inl ⟨_, opening ++ tail, rest, by simp, .region hopening hclosing⟩
    | none =>
      have hclosing := closingExtent_eq_none_iff.mp hextent
      cases hwhat : kind.unclosed? with
      | some what =>
        exact .inr ⟨what, kind, opening, behind, hbehind.symm, hopening, hwhat, hclosing⟩
      | none => cases kind <;> simp [RegionKind.unclosed?, closingExtent] at hwhat hextent
  by_cases hcast : [Byte.colon, Byte.colon] <+: b :: s
  · obtain ⟨rest, hrest⟩ := hcast
    obtain ⟨rfl, rfl⟩ := List.cons.inj hrest
    exact .inl ⟨.cast, [Byte.colon], rest, rfl, .cast⟩
  by_cases hmarker : StartsMarker prev (b :: s)
  · obtain ⟨hprev, behind, hbehind, hident⟩ := hmarker
    obtain ⟨rfl, rfl⟩ := List.cons.inj hbehind
    obtain ⟨name, rest, rfl, hname, hrest⟩ := exists_name_of_startsIdent hident
    exact .inl ⟨.marker, name, rest, rfl, .marker hprev hname hrest⟩
  · exact .inl ⟨.plain, [], s, rfl, .plain hregion hcast hmarker⟩

/-! ### The whole text -/

theorem IsToken.eq_cons {prev : Option UInt8} {kind : TokenKind} {text rest : List UInt8}
    (h : IsToken prev kind text rest) : ∃ b tail, text = b :: tail := by
  cases h with
  | region hopening =>
    obtain ⟨b, opening, rfl⟩ := List.exists_cons_of_length_pos hopening.length_pos
    exact ⟨b, _, rfl⟩
  | cast => exact ⟨_, _, rfl⟩
  | marker => exact ⟨_, _, rfl⟩
  | plain => exact ⟨_, _, rfl⟩

/-- A token is not empty, so the byte before it is out of sight behind it. -/
theorem IsToken.getLast?_append {prev : Option UInt8} {kind : TokenKind} {text rest : List UInt8}
    (h : IsToken prev kind text rest) (behind : List UInt8) (prev' : Option UInt8) :
    (text ++ behind).getLast?.or prev' = behind.getLast?.or text.getLast? := by
  obtain ⟨b, tail, rfl⟩ := h.eq_cons
  rw [List.getLast?_append, List.getLast?_cons, Option.or_assoc, Option.some_or]

@[simp] theorem Lexed.tokens_cons (token : Token) (lexed : Lexed) :
    (lexed.cons token).tokens = token :: lexed.tokens := rfl

@[simp] theorem Lexed.unclosed_cons (token : Token) (lexed : Lexed) :
    (lexed.cons token).unclosed = lexed.unclosed := rfl

/-- A token in front, and the lexical structure of what is behind it. -/
theorem lex_append {prev : Option UInt8} {kind : TokenKind} {text rest : List UInt8}
    (h : IsToken prev kind text rest) :
    lex prev (text ++ rest) = (lex text.getLast? rest).cons { kind, text } := by
  obtain ⟨b, tail, rfl⟩ := h.eq_cons
  rw [List.cons_append, lex, front_of_isToken h]
  simp

theorem lex_of_isOpen {prev : Option UInt8} {what : Unclosed} {s : List UInt8}
    (h : IsOpen prev what s) : lex prev s = { tokens := [], unclosed := some (what, s) } := by
  cases s with
  | nil =>
    obtain ⟨kind, opening, behind, hs, hopening, -⟩ := h
    have hpos := hopening.length_pos
    rw [(List.append_eq_nil_iff.mp hs.symm).1] at hpos
    exact absurd hpos (by simp)
  | cons b s => rw [lex, front_of_isOpen h]

@[simp]
theorem lex_nil (prev : Option UInt8) : lex prev [] = { tokens := [], unclosed := none } := by
  rw [lex]

theorem flatMap_text_of_closed {prev : Option UInt8} {s : List UInt8}
    (h : (lex prev s).unclosed = none) : (lex prev s).tokens.flatMap Token.text = s := by
  have htext := lex_text prev s
  rw [Lexed.text, h] at htext
  simpa using htext

/-- Induction over a text, token by token, with the byte before each. -/
theorem lexInduction {motive : Option UInt8 → List UInt8 → Prop}
    (nil : ∀ prev, motive prev [])
    (token : ∀ prev kind text rest, IsToken prev kind text rest →
      motive text.getLast? rest → motive prev (text ++ rest))
    (unclosed : ∀ prev what s, IsOpen prev what s → motive prev s)
    (prev : Option UInt8) (s : List UInt8) : motive prev s := by
  induction hlength : s.length using Nat.strongRecOn generalizing prev s with
  | ind length ih =>
    cases s with
    | nil => exact nil prev
    | cons b s =>
      rcases exists_isToken_or_isOpen prev b s with ⟨kind, text, rest, rfl, htoken⟩ | ⟨what, hopen⟩
      · refine token prev kind (b :: text) rest htoken (ih rest.length ?_ _ _ rfl)
        simp only [List.length_cons, List.length_append] at hlength
        omega
      · exact unclosed prev what (b :: s) hopen

end NamedSql.Sql
