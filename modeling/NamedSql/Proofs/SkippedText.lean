/-
What a skipped region says does not matter.

A region may be replaced by another one of its kind.  Its neighbours see no difference: it
starts with the same byte, or with the other `E`, and it ends with the same byte.  So the text
in front and the text behind are read as before.

* `IsToken.replace` — a region of the same kind in the place of a region;
* `lex_replace` — the tokens of a text in which a region has been replaced;
* `Replacement` — where things lie afterwards;
* `replace_region` — the references, the error and the compiled query afterwards.
-/
import Mathlib
import NamedSql.Proofs.Lookahead
import NamedSql.Proofs.Regions

namespace NamedSql.Sql

/-! ### One region for another -/

/-- The byte that a closed region of a kind ends with. -/
def RegionKind.lastByte : RegionKind → UInt8
  | .string | .escapeString => Byte.quote
  | .quotedIdentifier => Byte.doubleQuote
  | .lineComment => Byte.newline
  | .blockComment => Byte.slash
  | .dollarQuoted => Byte.dollar

theorem CommentRest.getLast? {body : List UInt8} (h : CommentRest body) :
    body.getLast? = some Byte.slash := by
  have hbehind {front : List UInt8} {body : List UInt8} (hbody : body.getLast? = some Byte.slash) :
      (front ++ body).getLast? = some Byte.slash := by
    rw [List.getLast?_append, hbody, Option.some_or]
  induction h with
  | closing => rfl
  | @comment inner _ _ _ _ ih => exact @hbehind (Byte.slash :: Byte.star :: inner) _ ih
  | @byte b _ _ _ _ ih => exact @hbehind [b] _ ih

/-- Only at the end of a text can a region lack its last byte. -/
theorem IsToken.getLast?_region {prev : Option UInt8} {kind : RegionKind} {text rest : List UInt8}
    (h : IsToken prev (.region kind) text rest) :
    rest = [] ∨ text.getLast? = some kind.lastByte := by
  cases h with
  | @region _ opening tail _ hopening hclosing =>
    -- but for a comment in the last line, each kind ends with a byte of its own
    cases hclosing with
    | lastLine => exact .inl rfl
    | blockComment htail =>
      refine .inr ?_
      rw [List.getLast?_append, htail.getLast?]
      rfl
    | @dollarQuoted _ body _ hbody =>
      cases hopening with
      | @dollarQuoted tag =>
        refine .inr ?_
        rw [dollarDelimiter, ← List.cons_append, ← List.append_assoc, ← List.append_assoc,
          List.getLast?_concat]
        rfl
    | _ => exact .inr (by simp [RegionKind.lastByte])

section

variable {prev : Option UInt8} {kind : RegionKind} {opening opening' : List UInt8}

/-- Where one delimiter opens a region, every other one of its kind does. -/
theorem Opening.replace (h : Opening prev kind opening) (h' : Opening none kind opening') :
    Opening prev kind opening' := by
  cases h' with
  | string => exact .string
  | quotedIdentifier => exact .quotedIdentifier
  | lineComment => exact .lineComment
  | blockComment => exact .blockComment
  | escapeString he => cases h with
    | escapeString _ hprev => exact .escapeString he hprev
  | dollarQuoted htag => cases h with
    | dollarQuoted _ hprev => exact .dollarQuoted htag hprev

/-- What is closed at the end of a text is closed wherever a region of its kind ends. -/
theorem Closing.replace {tail tail' rest : List UInt8} (h : Closing kind opening tail rest)
    (h' : Closing kind opening' tail' [])
    (hline : kind = .lineComment → Byte.newline ∈ tail') : Closing kind opening' tail' rest := by
  cases h' with
  | string hbody => cases h with
    | string _ hrest => exact .string hbody hrest
  | quotedIdentifier hbody => cases h with
    | quotedIdentifier _ hrest => exact .quotedIdentifier hbody hrest
  | escapeString hbody => cases h with
    | escapeString _ hrest => exact .escapeString hbody hrest
  | line hbody => exact .line hbody
  | lastLine hbody => exact absurd (hline rfl) hbody
  | blockComment htail => exact .blockComment htail
  | dollarQuoted hbody => exact .dollarQuoted hbody

theorem IsToken.replace {text text' rest : List UInt8}
    (h : IsToken prev (.region kind) text rest) (h' : IsToken none (.region kind) text' [])
    (hline : kind = .lineComment → text'.getLast? = some Byte.newline) :
    IsToken prev (.region kind) text' rest := by
  cases h with
  | region hopening hclosing =>
  cases h' with
  | @region _ opening' tail' _ hopening' hclosing' =>
    refine .region (hopening.replace hopening') (hclosing.replace hclosing' fun hkind => ?_)
    -- the line feed is none of the dashes
    subst hkind
    cases hopening' with
    | lineComment =>
      exact (List.mem_append.mp (List.mem_of_getLast? (hline rfl))).resolve_left (by decide)

/-- Two regions of a kind look the same from the front. -/
theorem covers_of_opening (h : Opening prev kind opening) (h' : Opening prev kind opening')
    (rest rest' : List UInt8) : Covers (opening ++ rest) (opening' ++ rest') := by
  cases h with
  | string => cases h'; exact Covers.of_not_isIdentByte (by decide) rest rest'
  | quotedIdentifier => cases h'; exact Covers.of_not_isIdentByte (by decide) rest rest'
  | lineComment => cases h'; exact Covers.of_not_isIdentByte (by decide) _ _
  | blockComment => cases h'; exact Covers.of_not_isIdentByte (by decide) _ _
  | dollarQuoted => cases h'; exact Covers.of_not_isIdentByte (by decide) _ _
  | @escapeString e he => cases h' with
    | @escapeString e' he' =>
      refine ⟨fun h => absurd h (by simp), fun b hb hhead => ?_, fun _ => ?_, fun _ => ?_, ?_⟩
      · obtain rfl : e' = b := Option.some.inj hhead
        rcases he' with rfl | rfl <;> exact absurd hb (by decide)
      · rcases he with rfl | rfl <;> rfl
      · rcases he with rfl | rfl <;> rfl
      · -- the tag would have to go on with the quote
        intro htag
        have hquote : (([e', Byte.quote] ++ rest').dropWhile isIdentByte).head? =
            some Byte.quote := by
          rcases he' with rfl | rfl <;> rfl
        rw [hquote] at htag
        exact absurd htag (by decide)

end

theorem IsToken.covers_of_region {prev : Option UInt8} {kind : RegionKind}
    {text text' rest rest' : List UInt8} (h : IsToken prev (.region kind) text rest)
    (h' : IsToken prev (.region kind) text' rest') : Covers (text ++ rest) (text' ++ rest') := by
  cases h with
  | region hopening =>
  cases h' with
  | region hopening' =>
    rw [List.append_assoc, List.append_assoc]
    exact covers_of_opening hopening hopening' _ _

/-- The tokens in front and behind stay when a region gives way to another one. -/
theorem lex_replace {prev : Option UInt8} {kind : RegionKind} {before after : List Token}
    {front text text' behind : List UInt8}
    (htokens : (lex prev (front ++ (text ++ behind))).tokens =
      before ++ { kind := .region kind, text } :: after)
    (hfront : before.flatMap Token.text = front)
    (halone : IsToken none (.region kind) text' [])
    (hline : kind = .lineComment → text'.getLast? = some Byte.newline) :
    lex prev (front ++ (text' ++ behind)) =
      { lex prev (front ++ (text ++ behind)) with
        tokens := before ++ { kind := .region kind, text := text' } :: after } := by
  have hquery := lex_append_of_covers (.refl _) htokens hfront
  have hmiddle := htokens
  rw [hquery, Lexed.prependTokens] at hmiddle
  obtain ⟨rest, hrest, htoken, hafter⟩ :=
    exists_isToken_of_lex (List.append_cancel_left hmiddle)
  dsimp only at hrest htoken hafter
  obtain rfl := List.append_cancel_left hrest
  have htoken' := htoken.replace halone hline
  -- what stands behind the region follows the same byte, or there is nothing behind
  have hbehind : lex text'.getLast? behind = lex text.getLast? behind := by
    rcases htoken.getLast?_region with rfl | hlast
    · rw [lex_nil, lex_nil]
    rcases htoken'.getLast?_region with rfl | hlast'
    · rw [lex_nil, lex_nil]
    rw [hlast, hlast']
  rw [hquery, lex_append_of_covers (htoken.covers_of_region htoken') htokens hfront,
    lex_append htoken, lex_append htoken', hbehind, ← hafter]
  rfl

/-! ### Where things lie afterwards -/

/-- `removed` bytes at `start` give way to `added` ones. -/
structure Replacement where
  start : Nat
  removed : Nat
  added : Nat

namespace Replacement

/-- Behind `pre`, the text `region` gives way to `other`. -/
def between (pre region other : String) : Replacement where
  start := (Utf8.encode pre).length
  removed := (Utf8.encode region).length
  added := (Utf8.encode other).length

/-- Where a span lies afterwards: what ends in front of the replaced bytes does not move. -/
def span (change : Replacement) (span : Span) : Span :=
  if span.stop ≤ change.start then span
  else { span with offset := span.offset + change.added - change.removed }

/-- A reference in its new place. -/
def reference (change : Replacement) (reference : Reference) : Reference :=
  { reference with span := change.span reference.span }

/-- An error in its new place. -/
def error (change : Replacement) (error : ScanError) : ScanError :=
  { error with span := change.span error.span }

/-- An answer of a scanner in its new place. -/
def answer (change : Replacement) : Except ScanError Reference → Except ScanError Reference
  | .ok reference => .ok (change.reference reference)
  | .error error => .error (change.error error)

theorem answers_map (change : Replacement) (references : List Reference)
    (error? : Option ScanError) :
    answers (references.map change.reference) (error?.map change.error) =
      (answers references error?).map change.answer := by
  cases error? <;> simp [answers, answer]

end Replacement

theorem stop_le_of_mem_referencesFrom {offset : Nat} {tokens : List Token} {reference : Reference}
    (h : reference ∈ referencesFrom offset tokens) :
    reference.span.stop ≤ offset + (tokens.flatMap Token.text).length := by
  induction tokens generalizing offset with
  | nil => exact absurd h List.not_mem_nil
  | cons token rest ih =>
    rw [List.flatMap_cons, List.length_append]
    by_cases hkind : token.kind = .marker
    · rw [referencesFrom_marker offset hkind] at h
      rcases List.mem_cons.mp h with rfl | hmem
      · simp only [Span.stop]
        omega
      · have hstop := ih hmem
        omega
    · rw [referencesFrom_skip offset hkind] at h
      have hstop := ih h
      omega

/-- Behind the replaced bytes, all references move by as much. -/
theorem referencesFrom_behind {change : Replacement} (hremoved : 0 < change.removed)
    (further : Nat) (tokens : List Token) :
    referencesFrom (change.start + change.added + further) tokens =
      (referencesFrom (change.start + change.removed + further) tokens).map change.reference := by
  induction tokens generalizing further with
  | nil => rfl
  | cons token rest ih =>
    have hnext := ih (further + token.text.length)
    rw [← Nat.add_assoc, ← Nat.add_assoc] at hnext
    by_cases h : token.kind = .marker
    · have hbehind : ¬ change.start + change.removed + further + token.text.length ≤
          change.start := by omega
      have hoffset : change.start + change.removed + further + change.added - change.removed =
          change.start + change.added + further := by omega
      rw [referencesFrom_marker _ h, referencesFrom_marker _ h, List.map_cons, ← hnext,
        Replacement.reference, Replacement.span, Span.stop, if_neg hbehind]
      dsimp only
      rw [hoffset]
    · rw [referencesFrom_skip _ h, referencesFrom_skip _ h, hnext]

/-- In front of them, none moves. -/
theorem referencesFrom_front {change : Replacement} {tokens : List Token}
    (h : (tokens.flatMap Token.text).length = change.start) :
    (referencesFrom 0 tokens).map change.reference = referencesFrom 0 tokens := by
  refine (List.map_congr_left fun reference hmem => ?_).trans (List.map_id _)
  have hstop := stop_le_of_mem_referencesFrom hmem
  rw [Nat.zero_add, h] at hstop
  rw [Replacement.reference, Replacement.span, if_pos hstop]
  rfl

section

variable {before after : List Token} {token token' : Token} {change : Replacement}

theorem referencesFrom_replace (hkind : token.kind ≠ .marker) (hkind' : token'.kind ≠ .marker)
    (hstart : (before.flatMap Token.text).length = change.start)
    (hremoved : token.text.length = change.removed) (hadded : token'.text.length = change.added)
    (hpos : 0 < token.text.length) :
    referencesFrom 0 (before ++ token' :: after) =
      (referencesFrom 0 (before ++ token :: after)).map change.reference := by
  rw [referencesFrom_append, referencesFrom_append, List.map_append, referencesFrom_front hstart,
    referencesFrom_skip _ hkind, referencesFrom_skip _ hkind', Nat.zero_add, hstart, hremoved,
    hadded]
  exact congrArg _ (referencesFrom_behind (hremoved ▸ hpos) 0 after)

/-- The error moves like everything behind the replaced bytes. -/
theorem error?_replace (unclosed : Option (Unclosed × List UInt8))
    (hstart : (before.flatMap Token.text).length = change.start)
    (hremoved : token.text.length = change.removed) (hadded : token'.text.length = change.added)
    (hpos : 0 < token.text.length) :
    Lexed.error? { tokens := before ++ token' :: after, unclosed } =
      (Lexed.error? { tokens := before ++ token :: after, unclosed }).map change.error := by
  simp only [Lexed.error?, Option.map_map]
  congr 1
  funext open?
  simp only [Function.comp, Replacement.error, Replacement.span, Span.stop, List.flatMap_append,
    List.flatMap_cons, List.length_append]
  rw [if_neg (by omega)]
  congr 2
  omega

end

@[simp]
theorem substitute_append (dialect : Dialect) (policy : NumberingPolicy) (table : ParameterTable)
    (before after : List Token) :
    substitute dialect policy table (before ++ after) =
      ((substitute dialect policy table before).1 ++
          (substitute dialect policy (substitute dialect policy table before).2 after).1,
        (substitute dialect policy (substitute dialect policy table before).2 after).2) := by
  induction before generalizing table with
  | nil => rfl
  | cons token before ih =>
    by_cases h : token.kind = .marker
    · simp [h, ih]
    · simp [h, ih]

/-! ### Replacing a region -/

/-- A region among tokens, and the tokens around it. -/
theorem exists_tokens_of_mem_regionsFrom {offset : Nat} {tokens : List Token} {region : Region}
    (h : region ∈ regionsFrom offset tokens) :
    ∃ before after,
      tokens = before ++ { kind := .region region.kind, text := region.text } :: after ∧
      region.offset = offset + (before.flatMap Token.text).length := by
  induction tokens generalizing offset with
  | nil => exact absurd h List.not_mem_nil
  | cons token rest ih =>
    have hrest (hmem : region ∈ regionsFrom (offset + token.text.length) rest) :
        ∃ before after, token :: rest =
            before ++ { kind := .region region.kind, text := region.text } :: after ∧
          region.offset = offset + (before.flatMap Token.text).length := by
      obtain ⟨before, after, rfl, hoffset⟩ := ih hmem
      refine ⟨token :: before, after, rfl, ?_⟩
      rw [hoffset, List.flatMap_cons, List.length_append, Nat.add_assoc]
    by_cases hkind : ∃ kind, token.kind = .region kind
    · obtain ⟨kind, hkind⟩ := hkind
      rw [regionsFrom_region hkind] at h
      rcases List.mem_cons.mp h with rfl | hmem
      · exact ⟨[], rest, by rw [← hkind]; rfl, rfl⟩
      · exact hrest hmem
    · rw [regionsFrom_skip fun kind hregion => hkind ⟨kind, hregion⟩] at h
      exact hrest h

/-- No token is empty. -/
theorem length_pos_of_mem_lex {prev : Option UInt8} {s : List UInt8} {token : Token}
    (h : token ∈ (lex prev s).tokens) : 0 < token.text.length := by
  induction prev, s using lexInduction with
  | nil prev => exact absurd h (by simp [lex_nil])
  | token prev kind text rest htoken ih =>
    rw [lex_append htoken] at h
    rcases List.mem_cons.mp h with rfl | hmem
    · obtain ⟨b, tail, rfl⟩ := htoken.eq_cons
      exact Nat.succ_pos _
    · exact ih hmem
  | unclosed prev what s hopen => exact absurd h (by simp [lex_of_isOpen hopen])

/-- A region that is a whole text by itself is one of its kind there. -/
theorem isToken_of_regions {text : String} {kind : RegionKind}
    (h : (lexQuery text).regions = [{ kind, offset := 0, text := Utf8.encode text }]) :
    IsToken none (.region kind) (Utf8.encode text) [] := by
  have hmem : ({ kind, offset := 0, text := Utf8.encode text } : Region) ∈
      regionsFrom 0 (lexQuery text).tokens := by
    rw [← Lexed.regions, h]
    exact List.mem_singleton_self _
  obtain ⟨before, after, htokens, hoffset⟩ := exists_tokens_of_mem_regionsFrom hmem
  dsimp only at htokens hoffset
  -- a token in front would move the region away from the start
  cases before with
  | nil =>
    obtain ⟨rest, hrest, htoken, -⟩ := exists_isToken_of_lex htokens
    obtain rfl : rest = [] := List.self_eq_append_right.mp hrest
    exact htoken
  | cons token before =>
    have hpos : 0 < token.text.length :=
      length_pos_of_mem_lex (htokens ▸ List.mem_cons_self : token ∈ (lexQuery text).tokens)
    rw [List.flatMap_cons, List.length_append] at hoffset
    omega

/-- The lexical structure of a query before and after a region of it gives way to another. -/
theorem lexQuery_replace {kind : RegionKind} {pre region other post : String}
    (hregion : { kind, offset := (Utf8.encode pre).length, text := Utf8.encode region } ∈
      (lexQuery (pre ++ region ++ post)).regions)
    (halone : (lexQuery other).regions = [{ kind, offset := 0, text := Utf8.encode other }])
    (hline : kind = .lineComment → (Utf8.encode other).getLast? = some Byte.newline) :
    ∃ before after unclosed, before.flatMap Token.text = Utf8.encode pre ∧
      lexQuery pre = { tokens := before, unclosed := none } ∧
      lexQuery (pre ++ region ++ post) =
        { tokens := before ++ { kind := .region kind, text := Utf8.encode region } :: after
          unclosed } ∧
      lexQuery (pre ++ other ++ post) =
        { tokens := before ++ { kind := .region kind, text := Utf8.encode other } :: after
          unclosed } := by
  obtain ⟨before, after, htokens, hoffset⟩ := exists_tokens_of_mem_regionsFrom hregion
  dsimp only at htokens hoffset
  have hwhole := lex_text none (Utf8.encode (pre ++ region ++ post))
  rw [← lexQuery, Lexed.text, htokens, List.flatMap_append, Utf8.encode_append,
    Utf8.encode_append, List.append_assoc, List.append_assoc] at hwhole
  -- the region stands where the text in front ends
  have hfront : before.flatMap Token.text = Utf8.encode pre :=
    (List.append_inj hwhole (by rw [hoffset, Nat.zero_add])).1
  have htokens' : (lex none (Utf8.encode pre ++ (Utf8.encode region ++ Utf8.encode post))).tokens =
      before ++ { kind := .region kind, text := Utf8.encode region } :: after := by
    rw [← htokens, lexQuery, Utf8.encode_append, Utf8.encode_append, List.append_assoc]
  refine ⟨before, after, (lexQuery (pre ++ region ++ post)).unclosed, hfront, ?_, ?_, ?_⟩
  · have hpre := lex_append_of_covers (.nil _) htokens' hfront
    rw [List.append_nil, lex_nil, Lexed.prependTokens, List.append_nil] at hpre
    exact hpre
  · rw [← htokens]
  · have hreplace := lex_replace htokens' hfront (isToken_of_regions halone) hline
    rw [← List.append_assoc, ← List.append_assoc, ← Utf8.encode_append, ← Utf8.encode_append,
      ← Utf8.encode_append, ← Utf8.encode_append] at hreplace
    exact hreplace

section

variable {kind : RegionKind} {pre region other post : String}

/-- The compiled query keeps the text in front of a region and behind it. -/
theorem compile_replace {before after : List Token} {compiler : Compiler}
    {compiled : CompiledSql} (hfront : before.flatMap Token.text = Utf8.encode pre)
    (hbefore : lexQuery pre = { tokens := before, unclosed := none })
    (hquery : lexQuery (pre ++ region ++ post) =
      { tokens := before ++ { kind := .region kind, text := Utf8.encode region } :: after
        unclosed := none })
    (hreplaced : lexQuery (pre ++ other ++ post) =
      { tokens := before ++ { kind := .region kind, text := Utf8.encode other } :: after
        unclosed := none })
    (hcompile : compiler.compile (pre ++ region ++ post) = .ok compiled) :
    ∃ front back table, compiler.compile pre = .ok { sql := front, parameters := table } ∧
      compiled.sql = front ++ region ++ back ∧
      compiler.compile (pre ++ other ++ post) =
        .ok { compiled with sql := front ++ other ++ back } := by
  have hclosed : (lexQuery (pre ++ region ++ post)).unclosed = none := by rw [hquery]
  have hpost : after.flatMap Token.text = Utf8.encode post := by
    have hwhole := text_of_closed hclosed
    rw [hquery, List.flatMap_append, hfront, List.flatMap_cons, Utf8.encode_append,
      Utf8.encode_append, List.append_assoc] at hwhole
    exact List.append_cancel_left (List.append_cancel_left hwhole)
  have hnamed : MarkersNamed after := fun token hmem =>
    markersNamed_lexQuery (pre ++ region ++ post) token (by rw [hquery]; simp [hmem])
  have hscan : scan pre = .ok (lexQuery pre).references :=
    scan_eq_ok_iff.mpr ⟨by rw [hbefore], rfl⟩
  obtain ⟨⟨front, table⟩, hpre⟩ := exists_compile_of_scan hscan compiler
  obtain ⟨-, htable⟩ := compile_eq_ok_iff.mp hpre
  rw [hbefore] at htable
  -- behind the region the output is a text too, because that part of the query is one
  obtain ⟨back, hback⟩ : Utf8.IsText
      (substitute compiler.dialect compiler.policy table after).1 := by
    rw [substitute_eq]
    refine @isText_replaceMarkers _ _ [] hnamed (numberAll_markers_length _ _ _ _)
      (isText_placeholders _ _) ?_
    rw [List.nil_append, hpost]
    exact Utf8.isText_encode post
  have hsubstitute (text : List UInt8) : substitute compiler.dialect compiler.policy []
      (before ++ { kind := .region kind, text } :: after) =
        (Utf8.encode front ++ (text ++ Utf8.encode back),
          (substitute compiler.dialect compiler.policy table after).2) := by
    rw [substitute_append, ← htable, substitute_skip _ (by simp), hback]
  obtain ⟨-, hcompiled⟩ := compile_eq_ok_iff.mp hcompile
  rw [hquery, hsubstitute] at hcompiled
  obtain ⟨hsql, hparameters⟩ := Prod.mk.inj hcompiled
  refine ⟨front, back, table, hpre, Utf8.encode_injective ?_,
    compile_eq_ok_iff.mpr ⟨by rw [hreplaced], ?_⟩⟩
  · rw [hsql, Utf8.encode_append, Utf8.encode_append, List.append_assoc]
  · rw [hreplaced, hsubstitute, hparameters, Utf8.encode_append, Utf8.encode_append,
      List.append_assoc]

/-- **What a skipped region says does not matter.**  Where a region of a query gives way to a
text that is one region of the same kind by itself, scanning gives the same references and the
same error, each where it was in the text around the region.  For every dialect and policy the
two compiled queries have one parameter table, and they differ only in the region. -/
theorem replace_region
    (hregion : { kind, offset := (Utf8.encode pre).length, text := Utf8.encode region } ∈
      (lexQuery (pre ++ region ++ post)).regions)
    (halone : (lexQuery other).regions = [{ kind, offset := 0, text := Utf8.encode other }])
    (hline : kind = .lineComment → (Utf8.encode other).getLast? = some Byte.newline) :
    (∀ count, (Scanner.start (pre ++ other ++ post)).steps count =
      ((Scanner.start (pre ++ region ++ post)).steps count).map
        (Option.map (Replacement.between pre region other).answer)) ∧
    ∀ compiler : Compiler,
      (∀ error, compiler.compile (pre ++ region ++ post) = .error error →
        compiler.compile (pre ++ other ++ post) =
          .error ((Replacement.between pre region other).error error)) ∧
      ∀ compiled, compiler.compile (pre ++ region ++ post) = .ok compiled →
        ∃ front back table, compiler.compile pre = .ok { sql := front, parameters := table } ∧
          compiled.sql = front ++ region ++ back ∧
          compiler.compile (pre ++ other ++ post) =
            .ok { compiled with sql := front ++ other ++ back } := by
  obtain ⟨before, after, unclosed, hfront, hbefore, hquery, hreplaced⟩ :=
    lexQuery_replace hregion halone hline
  -- a region is not empty, so that a marker is in front of it or behind it
  have hpos : 0 < (Utf8.encode region).length := by
    have hmem : { kind := .region kind, text := Utf8.encode region } ∈
        (lexQuery (pre ++ region ++ post)).tokens := by simp [hquery]
    exact length_pos_of_mem_lex hmem
  have hreferences : (lexQuery (pre ++ other ++ post)).references =
      (lexQuery (pre ++ region ++ post)).references.map
        (Replacement.between pre region other).reference := by
    rw [hquery, hreplaced]
    exact referencesFrom_replace (by simp) (by simp) (congrArg List.length hfront) rfl rfl hpos
  have herror : (lexQuery (pre ++ other ++ post)).error? =
      (lexQuery (pre ++ region ++ post)).error?.map
        (Replacement.between pre region other).error := by
    rw [hquery, hreplaced]
    exact error?_replace unclosed (congrArg List.length hfront) rfl rfl hpos
  refine ⟨fun count => ?_, fun compiler => ⟨fun error hcompile => ?_, fun compiled hcompile => ?_⟩⟩
  · rw [Scanner.steps_eq, Scanner.steps_eq, List.map_map]
    refine List.map_congr_left fun k _ => ?_
    rw [Function.comp, ← List.getElem?_map, ← Replacement.answers_map, Scanner.start,
      Scanner.start, hreferences, herror]
  · rw [compile_eq_error_iff, scan_eq_error_iff] at hcompile ⊢
    rw [herror, hcompile]
    rfl
  · obtain ⟨hclosed, -⟩ := compile_eq_ok_iff.mp hcompile
    rw [hquery] at hclosed
    obtain rfl : unclosed = none := hclosed
    exact compile_replace hfront hbefore hquery hreplaced hcompile

end

/-- A comment that holds a marker and an open quote, in the place of one that does not. -/
theorem replace_line_comment :
    (∀ count, (Scanner.start "SELECT :a -- :b $$ '\nFROM t WHERE b = :c").steps count =
      ((Scanner.start "SELECT :a -- x\nFROM t WHERE b = :c").steps count).map
        (Option.map (Replacement.between "SELECT :a " "-- x\n" "-- :b $$ '\n").answer)) ∧
    ∃ front back, "SELECT $1 -- x\nFROM t WHERE b = $2" = front ++ "-- x\n" ++ back ∧
      Compiler.standard.compile "SELECT :a -- :b $$ '\nFROM t WHERE b = :c" =
        .ok { sql := front ++ "-- :b $$ '\n" ++ back, parameters := [⟨"a", 1⟩, ⟨"c", 2⟩] } := by
  have hregions : (lexQuery ("SELECT :a " ++ "-- x\n" ++ "FROM t WHERE b = :c")).regions =
      [⟨.lineComment, 10, Utf8.encode "-- x\n"⟩] := by cbv
  have halone : (lexQuery "-- :b $$ '\n").regions =
      [⟨.lineComment, 0, Utf8.encode "-- :b $$ '\n"⟩] := by cbv
  have hcompile : Compiler.standard.compile
      ("SELECT :a " ++ "-- x\n" ++ "FROM t WHERE b = :c") =
        .ok { sql := "SELECT $1 -- x\nFROM t WHERE b = $2"
              parameters := [⟨"a", 1⟩, ⟨"c", 2⟩] } := by cbv
  have hmem : ⟨.lineComment, (Utf8.encode "SELECT :a ").length, Utf8.encode "-- x\n"⟩ ∈
      (lexQuery ("SELECT :a " ++ "-- x\n" ++ "FROM t WHERE b = :c")).regions := by
    rw [hregions]
    exact List.mem_singleton_self _
  obtain ⟨hsteps, hcompiled⟩ := replace_region hmem halone fun _ => by cbv
  obtain ⟨front, back, -, -, hsql, hother⟩ := (hcompiled .standard).2 _ hcompile
  exact ⟨hsteps, front, back, hsql, hother⟩

end NamedSql.Sql
