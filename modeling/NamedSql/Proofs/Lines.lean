/-
Queries cut at a line break.

No opening delimiter holds a line feed, and no name goes on behind one.  So a text in which
nothing is left open is read as before when a line break and more text follow it, and what
follows is read as if it stood alone.

* `Opening.newline_not_mem` — the delimiters that open a region;
* `IsToken.before_newline` — a token when a line break comes behind the text;
* `lex_newline` — the tokens of a text with a line break in it;
* `scan_newline` — its references and its error.
-/
import Mathlib
import NamedSql.Proofs.Lookahead
import NamedSql.Proofs.Rewriting
import NamedSql.Proofs.PlaceholderTokens

namespace NamedSql.Sql

/-! ### What lies further behind -/

/-- A span as much further behind. -/
def Span.moved (distance : Nat) (span : Span) : Span :=
  { span with offset := distance + span.offset }

/-- A reference as much further behind. -/
def Reference.moved (distance : Nat) (reference : Reference) : Reference :=
  { reference with span := reference.span.moved distance }

/-- An error as much further behind. -/
def ScanError.moved (distance : Nat) (error : ScanError) : ScanError :=
  { error with span := error.span.moved distance }

theorem referencesFrom_moved (distance offset : Nat) (tokens : List Token) :
    referencesFrom (distance + offset) tokens =
      (referencesFrom offset tokens).map (Reference.moved distance) := by
  induction tokens generalizing offset with
  | nil => rfl
  | cons token rest ih =>
    by_cases h : token.kind = .marker
    · simp [h, Nat.add_assoc, ih, Reference.moved, Span.moved]
    · simp [h, Nat.add_assoc, ih]

theorem errorFrom_moved (distance offset : Nat) (lexed : Lexed) :
    errorFrom (distance + offset) lexed =
      (errorFrom offset lexed).map (ScanError.moved distance) := by
  rw [errorFrom, errorFrom, Option.map_map]
  refine congrArg (Option.map · _) (funext fun open? => ?_)
  rw [Function.comp_apply, ScanError.moved, Span.moved, Nat.add_assoc]

/-! ### A token before a line break -/

theorem IsName.newline_not_mem {name : List UInt8} (h : IsName name) : Byte.newline ∉ name := by
  intro hmem
  have hident := h.2 _ hmem
  exact absurd hident (by decide)

theorem head?_of_newline {s behind : List UInt8} {b : UInt8}
    (h : (s ++ Byte.newline :: behind).head? = some b) (hb : b ≠ Byte.newline) :
    s.head? = some b := by
  cases s with
  | nil => exact absurd (Option.some.inj h).symm hb
  | cons c s => exact h

section

variable {prev : Option UInt8} {kind : RegionKind} {opening : List UInt8}

/-- No delimiter goes over a line break. -/
theorem Opening.newline_not_mem (h : Opening prev kind opening) : Byte.newline ∉ opening := by
  cases h with
  | @escapeString e he =>
    rcases he with rfl | rfl <;> decide
  | @dollarQuoted tag htag =>
    have hnewline : Byte.newline ∉ tag := by
      rcases htag with rfl | hname
      · exact List.not_mem_nil
      · exact hname.newline_not_mem
    rw [dollarDelimiter, List.mem_cons, List.mem_append, not_or, not_or]
    exact ⟨by decide, hnewline, by decide⟩
  | _ => decide

/-- A region stays closed; only a comment in the last line takes the line break with it. -/
theorem Closing.before_newline {tail rest : List UInt8} (h : Closing kind opening tail rest)
    (behind : List UInt8) :
    Closing kind opening tail (rest ++ Byte.newline :: behind) ∨
      rest = [] ∧ Closing kind opening (tail ++ [Byte.newline]) behind := by
  have hquote {q : UInt8} (hq : q ≠ Byte.newline) (hrest : rest.head? ≠ some q) :
      (rest ++ Byte.newline :: behind).head? ≠ some q :=
    fun hhead => hrest (head?_of_newline hhead hq)
  cases h with
  | string hbody hrest => exact .inl (.string hbody (hquote (by decide) hrest))
  | quotedIdentifier hbody hrest =>
    exact .inl (.quotedIdentifier hbody (hquote (by decide) hrest))
  | escapeString hbody hrest => exact .inl (.escapeString hbody (hquote (by decide) hrest))
  | line hbody => exact .inl (.line hbody)
  | lastLine hbody => exact .inr ⟨rfl, .line hbody⟩
  | blockComment htail => exact .inl (.blockComment htail)
  | dollarQuoted hbody => exact .inl (.dollarQuoted hbody)

end

theorem StartsRegion.of_newline {prev : Option UInt8} {s behind : List UInt8}
    (h : StartsRegion prev (s ++ Byte.newline :: behind)) : StartsRegion prev s := by
  obtain ⟨kind, opening, hopening, hahead⟩ := h
  exact ⟨kind, opening, hopening, prefix_of_not_mem hahead hopening.newline_not_mem⟩

theorem startsIdent_of_newline {s behind : List UInt8}
    (h : startsIdent (s ++ Byte.newline :: behind) = true) : startsIdent s = true := by
  cases s with
  | nil => exact absurd h Bool.false_ne_true
  | cons b s => exact h

/-- A token stays one when a line break comes behind the text, but for a comment in the last
line. -/
theorem IsToken.before_newline {prev : Option UInt8} {kind : TokenKind} {text rest : List UInt8}
    (h : IsToken prev kind text rest) (behind : List UInt8) :
    IsToken prev kind text (rest ++ Byte.newline :: behind) ∨
      rest = [] ∧ kind ≠ .marker ∧ IsToken prev kind (text ++ [Byte.newline]) behind := by
  -- only a region that the end closes takes the line feed in: a comment in the last line
  cases h with
  | @region kind opening tail _ hopening hclosing =>
    rcases hclosing.before_newline behind with hclosing | ⟨hrest, hclosing⟩
    · exact .inl (.region hopening hclosing)
    · refine .inr ⟨hrest, by simp, ?_⟩
      rw [List.append_assoc]
      exact .region hopening hclosing
  | cast => exact .inl .cast
  | marker hprev hname hrest =>
    refine .inl (.marker hprev hname ?_)
    cases rest with
    | nil => rfl
    | cons b rest => exact hrest
  | @plain b _ hregion hcast hmarker =>
    refine .inl (.plain (fun hstarts => hregion ?_) (fun hpair => hcast ?_) ?_)
    · exact StartsRegion.of_newline (s := b :: rest) hstarts
    · exact prefix_of_not_mem (s := b :: rest) hpair (by decide)
    · rintro ⟨hprev, behind', hbehind, hident⟩
      obtain ⟨rfl, rfl⟩ := List.cons.inj hbehind
      exact hmarker ⟨hprev, rest, rfl, startsIdent_of_newline hident⟩

/-! ### Texts with a line break -/

/-- A closed text keeps its references when a line break and more text follow, and what follows
is read as if it stood alone. -/
theorem lex_newline {prev : Option UInt8} {front : List UInt8}
    (h : (lex prev front).unclosed = none) (behind : List UInt8) :
    ∃ tokens, tokens.flatMap Token.text = front ++ [Byte.newline] ∧
      (∀ offset, referencesFrom offset tokens = referencesFrom offset (lex prev front).tokens) ∧
      lex prev (front ++ Byte.newline :: behind) = (lex none behind).prependTokens tokens := by
  induction prev, front using lexInduction with
  | nil prev =>
    refine ⟨[{ kind := .plain, text := [Byte.newline] }], rfl, fun offset => ?_, ?_⟩
    · rw [lex_nil, referencesFrom_skip offset (by simp)]
      rfl
    · have hbehind : lex (some Byte.newline) behind = lex none behind :=
        lex_congr (by decide) fun _ => by decide
      exact (lex_append (isToken_plain (by decide))).trans (congrArg _ hbehind)
  | token prev kind text rest htoken ih =>
    rw [lex_append htoken] at h ⊢
    rcases htoken.before_newline behind with hlonger | ⟨rfl, hkind, hlonger⟩
    · obtain ⟨tokens, htext, hreferences, hlex⟩ := ih h
      refine ⟨{ kind, text } :: tokens, ?_, fun offset => ?_, ?_⟩
      · rw [List.flatMap_cons, htext, List.append_assoc]
      · rw [Lexed.cons]
        by_cases hkind : kind = .marker
        · simp [hkind, hreferences]
        · simp [hkind, hreferences]
      · rw [List.append_assoc, lex_append hlonger, hlex]
        rfl
    · -- the comment in the last line goes on to the line feed
      refine ⟨[{ kind, text := text ++ [Byte.newline] }], ?_, fun offset => ?_, ?_⟩
      · simp
      · rw [lex_nil, Lexed.cons, referencesFrom_skip offset hkind, referencesFrom_skip offset hkind]
        rfl
      · have hbehind : lex (text ++ [Byte.newline]).getLast? behind = lex none behind := by
          rw [List.getLast?_concat]
          exact lex_congr (by decide) fun _ => by decide
        rw [List.append_nil, List.append_cons, lex_append hlonger, hbehind]
        rfl
  | unclosed prev what s hopen =>
    rw [lex_of_isOpen hopen] at h
    cases h

/-- **Scanning goes line by line.**  Where scanning a text finds no error, scanning it with a line
break and another text behind it fails just when scanning the other text fails.  It gives the
references of both, or the error of the other one; what stands in the other text is found as much
further behind as the first text and the line break are long. -/
theorem scan_newline {front : String} {references : List Reference}
    (h : scan front = .ok references) (behind : String) :
    scan (front ++ "\n" ++ behind) =
      match scan behind with
      | .ok more =>
        .ok (references ++ more.map (Reference.moved ((Utf8.encode front).length + 1)))
      | .error error => .error (error.moved ((Utf8.encode front).length + 1)) := by
  obtain ⟨hclosed, rfl⟩ := scan_eq_ok_iff.mp h
  obtain ⟨tokens, htext, hreferences, hlex⟩ := lex_newline hclosed (Utf8.encode behind)
  have hlength : (tokens.flatMap Token.text).length = (Utf8.encode front).length + 1 := by
    rw [htext, List.length_append, List.length_singleton]
  -- the line feed is the end of the tokens in front, which hide nothing of what is behind
  have hquery : lexQuery (front ++ "\n" ++ behind) = (lexQuery behind).prependTokens tokens := by
    rw [lexQuery, Utf8.encode_append, Utf8.encode_append, List.append_assoc]
    exact hlex
  have hfound : (lexQuery (front ++ "\n" ++ behind)).references =
      (lexQuery front).references ++
        (lexQuery behind).references.map (Reference.moved ((Utf8.encode front).length + 1)) := by
    rw [hquery, Lexed.prependTokens, Lexed.references, referencesFrom_append, hreferences,
      Nat.zero_add, hlength, ← Nat.add_zero (_ + 1), referencesFrom_moved]
    rfl
  have herror : (lexQuery (front ++ "\n" ++ behind)).error? =
      (lexQuery behind).error?.map (ScanError.moved ((Utf8.encode front).length + 1)) := by
    rw [hquery, error?_eq_errorFrom, error?_eq_errorFrom, ← errorFrom_moved]
    simp [errorFrom, Lexed.prependTokens, hlength]
  rw [scan, scan, herror, hfound]
  cases (lexQuery behind).error? <;> rfl

/-- A comment that the first text leaves open ends with its line. -/
theorem scan_newline_open_comment :
    scan ("SELECT :a -- :b '" ++ "\n" ++ "FROM t WHERE c = :c AND d = 'é' || :d") =
      .ok [⟨"a", ⟨7, 2⟩⟩, ⟨"c", ⟨35, 2⟩⟩, ⟨"d", ⟨54, 2⟩⟩] := by
  have hfront : scan "SELECT :a -- :b '" = .ok [⟨"a", ⟨7, 2⟩⟩] := by cbv
  have hbehind : scan "FROM t WHERE c = :c AND d = 'é' || :d" =
      .ok [⟨"c", ⟨17, 2⟩⟩, ⟨"d", ⟨36, 2⟩⟩] := by cbv
  rw [scan_newline hfront, hbehind]
  rfl

end NamedSql.Sql
