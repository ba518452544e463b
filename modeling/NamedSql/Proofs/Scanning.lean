/-
Scanning a query gives what the grammar says, and nothing else.

Every text has exactly one list of references, with at most one error behind it, that
the grammar derives (`scans_iff`); `scan` and `Scanner` give these (`scan_grammar`).
-/
import NamedSql.Proofs.Encoding
import NamedSql.Proofs.Lexing

namespace NamedSql.Sql

/-! ### The names of markers -/

theorem lt_of_isIdentByte {b : UInt8} (h : isIdentByte b = true) : b < 0x80 := by
  simp only [isIdentByte, isIdentStart, Bool.or_eq_true, decide_eq_true_eq, UInt8.le_iff_toNat_le,
    ← UInt8.toNat_inj] at h
  rw [UInt8.lt_iff_toNat_lt]
  simp only [UInt8.reduceToNat] at h ⊢
  omega

theorem IsName.isText {name : List UInt8} (h : IsName name) : Utf8.IsText name :=
  Utf8.isText_of_ascii fun b hb => lt_of_isIdentByte (h.2 b hb)

/-- A marker is a colon and its name. -/
theorem IsToken.text_eq {prev : Option UInt8} {text rest : List UInt8}
    (h : IsToken prev .marker text rest) :
    text = Byte.colon :: Utf8.encode (Token.name { kind := .marker, text }) := by
  cases h with
  | marker _ hname _ => rw [Token.name, List.tail_cons, Utf8.encode_decode hname.isText]

/-! ### References and the error -/

/-- The error of a text that starts at an offset. -/
def errorFrom (offset : Nat) (lexed : Lexed) : Option ScanError :=
  lexed.unclosed.map fun (what, rest) =>
    { what, span := { offset := offset + (lexed.tokens.flatMap Token.text).length,
                      length := rest.length } }

theorem error?_eq_errorFrom (lexed : Lexed) : lexed.error? = errorFrom 0 lexed := by
  simp [Lexed.error?, errorFrom]

@[simp] theorem errorFrom_cons (offset : Nat) (token : Token) (lexed : Lexed) :
    errorFrom offset (lexed.cons token) = errorFrom (offset + token.text.length) lexed := by
  simp [errorFrom, Lexed.cons, Nat.add_assoc]

@[simp] theorem referencesFrom_marker (offset : Nat) {token : Token} (h : token.kind = .marker)
    (rest : List Token) :
    referencesFrom offset (token :: rest) =
      { name := token.name, span := { offset, length := token.text.length } } ::
        referencesFrom (offset + token.text.length) rest := by
  rw [referencesFrom, if_pos h]

@[simp] theorem referencesFrom_skip (offset : Nat) {token : Token} (h : token.kind ≠ .marker)
    (rest : List Token) :
    referencesFrom offset (token :: rest) = referencesFrom (offset + token.text.length) rest := by
  rw [referencesFrom, if_neg h]

@[simp] theorem referencesFrom_append (offset : Nat) (before after : List Token) :
    referencesFrom offset (before ++ after) =
      referencesFrom offset before ++
        referencesFrom (offset + (before.flatMap Token.text).length) after := by
  induction before generalizing offset with
  | nil => rfl
  | cons token before ih =>
    by_cases h : token.kind = .marker
    · simp [h, ih, Nat.add_assoc]
    · simp [h, ih, Nat.add_assoc]

/-- Where a reference stands, there is a colon with a name behind it that goes on as long as it
can. -/
theorem exists_split_of_mem {prev : Option UInt8} {s : List UInt8} {offset : Nat}
    {reference : Reference} (h : reference ∈ referencesFrom offset (lex prev s).tokens) :
    ∃ before name behind, s = before ++ Byte.colon :: (name ++ behind) ∧
      MayPrecedeMarker (before.getLast?.or prev) ∧ IsName name ∧
      behind.head?.any isIdentByte = false ∧
      reference = { name := Utf8.decode name
                    span := { offset := offset + before.length, length := name.length + 1 } } := by
  induction prev, s using lexInduction generalizing offset with
  | nil prev =>
    rw [lex_nil] at h
    cases h
  | unclosed prev what s hopen =>
    rw [lex_of_isOpen hopen] at h
    cases h
  | token prev kind text rest htoken ih =>
    rw [lex_append htoken, Lexed.cons] at h
    -- a reference of the rest stands further on by this token
    by_cases hmem : reference ∈
        referencesFrom (offset + text.length) (lex text.getLast? rest).tokens
    · obtain ⟨before, name, behind, rfl, hprev, hname, hbehind, rfl⟩ := ih hmem
      refine ⟨text ++ before, name, behind, by rw [List.append_assoc], ?_, hname, hbehind, ?_⟩
      · rwa [htoken.getLast?_append]
      · rw [List.length_append, Nat.add_assoc]
    · by_cases hkind : kind = .marker
      · subst hkind
        rw [referencesFrom_marker offset rfl, List.mem_cons, or_iff_left hmem] at h
        subst h
        cases htoken with
        | marker hprev hname hrest => exact ⟨[], _, rest, rfl, hprev, hname, hrest, rfl⟩
      · rw [referencesFrom_skip offset hkind] at h
        exact absurd h hmem

/-- What is read off the lexical structure, the grammar derives. -/
theorem scans_lex (prev : Option UInt8) (s : List UInt8) (offset : Nat) :
    Scans prev offset s (referencesFrom offset (lex prev s).tokens)
      (errorFrom offset (lex prev s)) := by
  induction prev, s using lexInduction generalizing offset with
  | nil prev =>
    rw [lex_nil]
    exact .done
  | token prev kind text rest htoken ih =>
    rw [lex_append htoken, errorFrom_cons, Lexed.tokens_cons]
    by_cases hkind : kind = .marker
    · subst hkind
      rw [referencesFrom_marker offset rfl]
      exact .reference htoken.text_eq htoken (ih _)
    · rw [referencesFrom_skip offset hkind]
      exact .skip hkind htoken (ih _)
  | unclosed prev what s hopen =>
    rw [lex_of_isOpen hopen]
    exact .unclosed hopen

/-- The references and the error of a text are the ones that the grammar derives. -/
theorem scans_iff {prev : Option UInt8} {offset : Nat} {s : List UInt8}
    {references : List Reference} {error? : Option ScanError} :
    Scans prev offset s references error? ↔
      references = referencesFrom offset (lex prev s).tokens ∧
        error? = errorFrom offset (lex prev s) := by
  constructor
  -- the lexer takes the token of each rule, so a derivation can only repeat it
  · intro h
    induction h with
    | done =>
      rw [lex_nil]
      exact ⟨rfl, rfl⟩
    | @reference _ offset name text rest _ _ htext htoken _ ih =>
      obtain ⟨rfl, rfl⟩ := ih
      have hname : Token.name { kind := .marker, text } = name :=
        Utf8.encode_injective (List.cons.inj (htoken.text_eq.symm.trans htext)).2
      rw [lex_append htoken]
      simp [hname]
    | @skip _ offset _ _ _ _ _ hkind htoken _ ih =>
      obtain ⟨rfl, rfl⟩ := ih
      rw [lex_append htoken]
      simp [hkind]
    | unclosed hopen =>
      rw [lex_of_isOpen hopen]
      exact ⟨rfl, rfl⟩
  · rintro ⟨rfl, rfl⟩
    exact scans_lex prev s offset

/-! ### The scanner, one answer at a time -/

/-- References one after the other, then the error. -/
def answers (references : List Reference) (error? : Option ScanError) :
    List (Except ScanError Reference) :=
  references.map Except.ok ++ error?.toList.map Except.error

/-- Each call gives the next answer, and none when all are given. -/
theorem Scanner.steps_eq (scanner : Scanner) (count : Nat) :
    scanner.steps count =
      (List.range count).map fun k => (answers scanner.pending scanner.error?)[k]? := by
  induction count generalizing scanner with
  | zero => rfl
  | succ count ih =>
    obtain ⟨pending, error?⟩ := scanner
    rw [Scanner.steps, ih, List.range_succ_eq_map, List.map_cons, List.map_map]
    cases pending with
    | cons reference pending => simp [Scanner.next, answers, Function.comp_def]
    | nil => cases error? <;> simp [Scanner.next, answers, Function.comp_def]

/-- **Scanning follows the lexical grammar.**  By the grammar a query has exactly one list
of references and at most one error.  `scan` gives the references, or the error if there
is one, and a scanner gives the references, then the error, then nothing. -/
theorem scan_grammar (sql : String) :
    ∃ (references : List Reference) (error? : Option ScanError),
      (∀ found failure?, Scans none 0 (Utf8.encode sql) found failure? ↔
        found = references ∧ failure? = error?) ∧
      scan sql = (match error? with
        | some error => .error error
        | none => .ok references) ∧
      ∀ count, (Scanner.start sql).steps count =
        (List.range count).map fun k => (answers references error?)[k]? := by
  refine ⟨(lexQuery sql).references, (lexQuery sql).error?, fun found failure? => ?_, ?_,
    fun count => (Scanner.start sql).steps_eq count⟩
  · rw [error?_eq_errorFrom]
    exact scans_iff
  · rfl

end NamedSql.Sql
