/-
Compiling puts placeholders in the places of the markers and keeps all else.

A query and its compiled form are woven of the same stretches, those between the spans of
the references: with the markers between them they give the query, with the placeholders
the output.

* `substitute_eq` — substituting is numbering the names and replacing the markers;
* `weave_stretches` — replacing markers, seen from the spans of the references;
* `isText_replaceMarkers` — no character is cut in two;
* `compile_rewrites_markers` — compiling, all of it.
-/
import Mathlib
import NamedSql.Proofs.Numbering
import NamedSql.Proofs.Scanning

namespace NamedSql.Sql

/-- The stretches of a text before, between and behind spans, from `start` on. -/
def stretches (bytes : List UInt8) (start : Nat) : List Span → List (List UInt8)
  | [] => [bytes.drop start]
  | span :: rest => (bytes.take span.offset).drop start :: stretches bytes span.stop rest

/-- Stretches with a text between each and the next. -/
def weave : List (List UInt8) → List (List UInt8) → List UInt8
  | stretch :: rest, text :: texts => stretch ++ text ++ weave rest texts
  | rest, _ => rest.flatten

/-! ### Replacing markers -/

/-- The markers of a token list. -/
def markers (tokens : List Token) : List Token :=
  tokens.filter fun token => token.kind = .marker

/-- The bytes of a token list with texts in the places of its markers. -/
def replaceMarkers : List Token → List (List UInt8) → List UInt8
  | [], _ => []
  | token :: rest, texts =>
    if token.kind = .marker then texts.headD [] ++ replaceMarkers rest texts.tail
    else token.text ++ replaceMarkers rest texts

section

variable {token : Token} (rest : List Token)

@[simp] theorem markers_marker (h : token.kind = .marker) :
    markers (token :: rest) = token :: markers rest :=
  List.filter_cons_of_pos (by simpa using h)

@[simp] theorem markers_skip (h : token.kind ≠ .marker) : markers (token :: rest) = markers rest :=
  List.filter_cons_of_neg (by simpa using h)

@[simp] theorem replaceMarkers_marker (h : token.kind = .marker) (text : List UInt8)
    (texts : List (List UInt8)) :
    replaceMarkers (token :: rest) (text :: texts) = text ++ replaceMarkers rest texts := by
  rw [replaceMarkers, if_pos h]
  rfl

@[simp] theorem replaceMarkers_skip (h : token.kind ≠ .marker) (texts : List (List UInt8)) :
    replaceMarkers (token :: rest) texts = token.text ++ replaceMarkers rest texts := by
  rw [replaceMarkers, if_neg h]

@[simp] theorem substitute_marker (h : token.kind = .marker) (dialect : Dialect)
    (policy : NumberingPolicy) (table : ParameterTable) :
    substitute dialect policy table (token :: rest) =
      (Utf8.encode (dialect.placeholder (table.number policy token.name).1) ++
        (substitute dialect policy (table.number policy token.name).2 rest).1,
        (substitute dialect policy (table.number policy token.name).2 rest).2) := by
  rw [substitute, if_pos h]

@[simp] theorem substitute_skip (h : token.kind ≠ .marker) (dialect : Dialect)
    (policy : NumberingPolicy) (table : ParameterTable) :
    substitute dialect policy table (token :: rest) =
      (token.text ++ (substitute dialect policy table rest).1,
        (substitute dialect policy table rest).2) := by
  rw [substitute, if_neg h]

end

theorem substitute_eq (dialect : Dialect) (policy : NumberingPolicy) (table : ParameterTable)
    (tokens : List Token) :
    substitute dialect policy table tokens =
      (replaceMarkers tokens ((table.numberAll policy ((markers tokens).map Token.name)).1.map
          fun index => Utf8.encode (dialect.placeholder index)),
        (table.numberAll policy ((markers tokens).map Token.name)).2) := by
  induction tokens generalizing table with
  | nil => rfl
  | cons token rest ih =>
    by_cases h : token.kind = .marker
    · simp [h, ih]
    · simp [h, ih]

theorem replaceMarkers_text (tokens : List Token) :
    replaceMarkers tokens ((markers tokens).map Token.text) = tokens.flatMap Token.text := by
  induction tokens with
  | nil => rfl
  | cons token rest ih =>
    by_cases h : token.kind = .marker
    · simp [h, ih]
    · simp [h, ih]

theorem referencesFrom_names (offset : Nat) (tokens : List Token) :
    (referencesFrom offset tokens).map Reference.name = (markers tokens).map Token.name := by
  induction tokens generalizing offset with
  | nil => rfl
  | cons token rest ih =>
    by_cases h : token.kind = .marker
    · simp [h, ih]
    · simp [h, ih]

/-- What has been passed since `copied` and is still to be copied, followed by the tokens
that are still to come, is woven of the stretches from `copied` on. -/
theorem weave_stretches {bytes : List UInt8} {tokens : List Token} {texts : List (List UInt8)}
    (hlength : texts.length = (markers tokens).length) {copied offset : Nat}
    (hcopied : copied ≤ offset) (hoffset : offset ≤ bytes.length)
    (hbytes : bytes.drop offset = tokens.flatMap Token.text) :
    weave (stretches bytes copied ((referencesFrom offset tokens).map Reference.span)) texts =
      (bytes.take offset).drop copied ++ replaceMarkers tokens texts := by
  induction tokens generalizing texts copied offset with
  | nil =>
    obtain rfl : texts = [] := List.length_eq_zero_iff.mp hlength
    have hall : bytes.length ≤ offset := by simpa using hbytes
    rw [List.take_of_length_le hall]
    simp [referencesFrom, stretches, weave, replaceMarkers]
  | cons token rest ih =>
    rw [List.flatMap_cons] at hbytes
    have hnext : bytes.drop (offset + token.text.length) = rest.flatMap Token.text := by
      rw [← List.drop_drop, hbytes, List.drop_left]
    have hfits : offset + token.text.length ≤ bytes.length := by
      have h := congrArg List.length hbytes
      simp only [List.length_drop, List.length_append] at h
      omega
    -- a marker ends the stretch and a new one starts behind it; any other token is kept
    by_cases h : token.kind = .marker
    · rw [markers_marker rest h] at hlength
      obtain ⟨text, texts, rfl⟩ := List.exists_cons_of_length_eq_add_one hlength
      rw [referencesFrom_marker offset h, List.map_cons, stretches, weave, Span.stop,
        ih (by simpa using hlength) (Nat.le_refl _) hfits hnext, replaceMarkers_marker rest h]
      simp
    · rw [markers_skip rest h] at hlength
      have htake : bytes.take (offset + token.text.length) = bytes.take offset ++ token.text := by
        rw [List.take_add, hbytes, List.take_left]
      rw [referencesFrom_skip offset h, ih hlength (by omega) hfits hnext,
        replaceMarkers_skip rest h, htake, List.drop_append_of_le_length (by simp; omega),
        List.append_assoc]

/-! ### Texts stay texts -/

/-- Each marker is a colon and a name. -/
def MarkersNamed (tokens : List Token) : Prop :=
  ∀ token ∈ tokens, token.kind = .marker → ∃ name, token.text = Byte.colon :: name ∧ IsName name

theorem markersNamed_lex (prev : Option UInt8) (s : List UInt8) :
    MarkersNamed (lex prev s).tokens := by
  induction prev, s using lexInduction with
  | nil prev => simp [lex_nil, MarkersNamed]
  | token prev kind text rest htoken ih =>
    rw [lex_append htoken]
    intro token hmem hkind
    rcases List.mem_cons.mp hmem with rfl | hmem
    · obtain rfl : kind = .marker := hkind
      cases htoken with
      | @marker name _ _ hname _ => exact ⟨name, rfl, hname⟩
    · exact ih token hmem hkind
  | unclosed prev what s hopen => simp [lex_of_isOpen hopen, MarkersNamed]

theorem markersNamed_lexQuery (sql : String) : MarkersNamed (lexQuery sql).tokens :=
  markersNamed_lex none (Utf8.encode sql)

theorem markersNamed_tail {token : Token} {rest : List Token}
    (h : MarkersNamed (token :: rest)) : MarkersNamed rest := fun other hmem =>
  h other (List.mem_cons_of_mem token hmem)

/-- Behind ASCII bytes, the bytes of a text spell a text. -/
theorem isText_of_append {ascii behind : List UInt8} (hascii : ∀ b ∈ ascii, b < 0x80)
    (h : Utf8.IsText (ascii ++ behind)) : Utf8.IsText behind := by
  induction ascii with
  | nil => exact h
  | cons b ascii ih =>
    exact ih (fun c hc => hascii c (List.mem_cons_of_mem b hc))
      (@Utf8.IsText.cut [] _ b h (hascii b (by simp))).2

/-- Texts in the places of the markers leave a text, also behind bytes kept before. -/
theorem isText_replaceMarkers {tokens : List Token} {texts : List (List UInt8)}
    {kept : List UInt8} (hmarkers : MarkersNamed tokens)
    (hlength : texts.length = (markers tokens).length) (htexts : ∀ t ∈ texts, Utf8.IsText t)
    (h : Utf8.IsText (kept ++ tokens.flatMap Token.text)) :
    Utf8.IsText (kept ++ replaceMarkers tokens texts) := by
  induction tokens generalizing texts kept with
  | nil => exact h
  | cons token rest ih =>
    have hrest := markersNamed_tail hmarkers
    rw [List.flatMap_cons] at h
    by_cases hkind : token.kind = .marker
    · obtain ⟨name, htext, hname⟩ := hmarkers token (by simp) hkind
      rw [markers_marker rest hkind] at hlength
      obtain ⟨text, texts, rfl⟩ := List.exists_cons_of_length_eq_add_one hlength
      rw [htext, List.cons_append] at h
      -- the colon is no part of a longer character, so both sides of it are texts
      obtain ⟨hkept, hbehind⟩ := h.cut (by decide)
      have hascii := isText_of_append (fun b hb => lt_of_isIdentByte (hname.2 b hb)) hbehind
      rw [replaceMarkers_marker rest hkind]
      exact hkept.append ((htexts text (by simp)).append
        (@ih texts [] hrest (by simpa using hlength)
          (fun t ht => htexts t (List.mem_cons_of_mem text ht)) hascii))
    · rw [markers_skip rest hkind] at hlength
      rw [replaceMarkers_skip rest hkind, ← List.append_assoc]
      exact ih hrest hlength htexts (by simpa using h)

/-! ### Compiling -/

theorem scan_eq_ok_iff {sql : String} {references : List Reference} :
    scan sql = .ok references ↔
      (lexQuery sql).unclosed = none ∧ references = (lexQuery sql).references := by
  rw [scan]
  cases h : (lexQuery sql).unclosed with
  | none => simp [Lexed.error?, h, eq_comm]
  | some open? => simp [Lexed.error?, h]

theorem scan_eq_error_iff {sql : String} {error : ScanError} :
    scan sql = .error error ↔ (lexQuery sql).error? = some error := by
  rw [scan]
  cases (lexQuery sql).error? <;> simp

theorem compile_eq_error_iff {compiler : Compiler} {sql : String} {error : ScanError} :
    compiler.compile sql = .error error ↔ scan sql = .error error := by
  rw [Compiler.compile, scan]
  cases h : (lexQuery sql).error? <;> simp

theorem text_of_closed {sql : String} (h : (lexQuery sql).unclosed = none) :
    (lexQuery sql).tokens.flatMap Token.text = Utf8.encode sql :=
  flatMap_text_of_closed h

theorem isText_placeholders (dialect : Dialect) (indices : List Nat) :
    ∀ text ∈ indices.map fun index => Utf8.encode (dialect.placeholder index),
      Utf8.IsText text := by
  intro text htext
  obtain ⟨index, -, rfl⟩ := List.mem_map.mp htext
  exact Utf8.isText_encode _

theorem numberAll_markers_length (dialect : Dialect) (policy : NumberingPolicy)
    (table : ParameterTable) (tokens : List Token) :
    ((table.numberAll policy ((markers tokens).map Token.name)).1.map fun index =>
      Utf8.encode (dialect.placeholder index)).length = (markers tokens).length := by
  rw [List.length_map, ParameterTable.numberAll_length, List.length_map]

/-- The bytes of a compiled query are those that were substituted. -/
theorem encode_decode_substitute {sql : String} (h : (lexQuery sql).unclosed = none)
    (dialect : Dialect) (policy : NumberingPolicy) (table : ParameterTable) :
    Utf8.encode (Utf8.decode (substitute dialect policy table (lexQuery sql).tokens).1) =
      (substitute dialect policy table (lexQuery sql).tokens).1 := by
  refine Utf8.encode_decode ?_
  rw [substitute_eq]
  refine @isText_replaceMarkers _ _ [] (markersNamed_lexQuery sql)
    (numberAll_markers_length dialect policy table _) (isText_placeholders dialect _) ?_
  rw [List.nil_append, text_of_closed h]
  exact Utf8.isText_encode sql

theorem compile_eq_ok_iff {compiler : Compiler} {sql : String} {compiled : CompiledSql} :
    compiler.compile sql = .ok compiled ↔
      (lexQuery sql).unclosed = none ∧
        (Utf8.encode compiled.sql, compiled.parameters) =
          substitute compiler.dialect compiler.policy [] (lexQuery sql).tokens := by
  rw [Compiler.compile]
  cases h : (lexQuery sql).unclosed with
  | some open? => simp [Lexed.error?, h]
  | none =>
    -- what is substituted is a text, so nothing is lost when it is decoded
    have hbytes := encode_decode_substitute h compiler.dialect compiler.policy []
    simp only [Lexed.error?, h, Option.map_none, true_and]
    constructor
    · intro hok
      rw [← Except.ok.inj hok, hbytes]
    · intro hsubstitute
      rw [← hsubstitute]
      simp [Utf8.decode_encode]

/-- A query and its compiled form are woven of the same stretches, those between the spans
of the references: the query with the markers, the output with placeholders. -/
structure Rewrites (dialect : Dialect) (sql : String) (references : List Reference)
    (indices : List Nat) (output : String) : Prop where
  query : Utf8.encode sql =
    weave (stretches (Utf8.encode sql) 0 (references.map Reference.span))
      (references.map fun reference => Utf8.encode reference.text)
  output : Utf8.encode output =
    weave (stretches (Utf8.encode sql) 0 (references.map Reference.span))
      (indices.map fun index => Utf8.encode (dialect.placeholder index))

theorem referencesFrom_text {tokens : List Token} (h : MarkersNamed tokens) (offset : Nat) :
    ((referencesFrom offset tokens).map fun reference => Utf8.encode reference.text) =
      (markers tokens).map Token.text := by
  induction tokens generalizing offset with
  | nil => rfl
  | cons token rest ih =>
    have hrest := markersNamed_tail h
    by_cases hkind : token.kind = .marker
    · obtain ⟨name, htext, hname⟩ := h token (by simp) hkind
      have hmarker : Utf8.encode (":" ++ token.name) = token.text := by
        rw [Utf8.encode_append, Token.name, htext, List.tail_cons, Utf8.encode_decode hname.isText]
        rfl
      rw [referencesFrom_marker offset hkind, markers_marker rest hkind, List.map_cons,
        List.map_cons, ih hrest, Reference.text, hmarker]
    · rw [referencesFrom_skip offset hkind, markers_skip rest hkind, ih hrest]

/-- Texts between the stretches of a query stand in the places of its markers. -/
theorem weave_query {sql : String} (h : (lexQuery sql).unclosed = none)
    {texts : List (List UInt8)} (hlength : texts.length = (markers (lexQuery sql).tokens).length) :
    weave (stretches (Utf8.encode sql) 0 ((lexQuery sql).references.map Reference.span)) texts =
      replaceMarkers (lexQuery sql).tokens texts := by
  have hbytes : (Utf8.encode sql).drop 0 = (lexQuery sql).tokens.flatMap Token.text :=
    (text_of_closed h).symm
  rw [Lexed.references, weave_stretches hlength (Nat.le_refl 0) (Nat.zero_le _) hbytes]
  rfl

/-- The numbers that the references of a query get. -/
def numbersOf (policy : NumberingPolicy) (references : List Reference) : List Nat :=
  (ParameterTable.numberAll policy [] (references.map Reference.name)).1

theorem rewrites_of_compile {compiler : Compiler} {sql : String} {references : List Reference}
    {compiled : CompiledSql} (hscan : scan sql = .ok references)
    (hcompile : compiler.compile sql = .ok compiled) :
    Rewrites compiler.dialect sql references (numbersOf compiler.policy references)
      compiled.sql := by
  obtain ⟨hclosed, rfl⟩ := scan_eq_ok_iff.mp hscan
  obtain ⟨-, hsubstitute⟩ := compile_eq_ok_iff.mp hcompile
  rw [substitute_eq] at hsubstitute
  obtain ⟨hsql, -⟩ := Prod.mk.inj hsubstitute
  constructor
  · have htexts := referencesFrom_text (markersNamed_lexQuery sql) 0
    rw [← Lexed.references] at htexts
    rw [htexts, weave_query hclosed (by simp), replaceMarkers_text, text_of_closed hclosed]
  · rw [hsql, numbersOf, Lexed.references, referencesFrom_names, ← Lexed.references,
      weave_query hclosed (numberAll_markers_length _ _ _ _)]

theorem parameters_of_compile {compiler : Compiler} {sql : String} {references : List Reference}
    {compiled : CompiledSql} (hscan : scan sql = .ok references)
    (hcompile : compiler.compile sql = .ok compiled) :
    compiled.parameters =
      (ParameterTable.numberAll compiler.policy [] (references.map Reference.name)).2 := by
  obtain ⟨-, rfl⟩ := scan_eq_ok_iff.mp hscan
  obtain ⟨-, hsubstitute⟩ := compile_eq_ok_iff.mp hcompile
  rw [substitute_eq] at hsubstitute
  rw [Lexed.references, referencesFrom_names]
  exact (Prod.mk.inj hsubstitute).2

theorem numbering_of_compile {compiler : Compiler} {sql : String} {references : List Reference}
    {compiled : CompiledSql} (hscan : scan sql = .ok references)
    (hcompile : compiler.compile sql = .ok compiled) :
    Numbering compiler.policy (references.map Reference.name)
      (numbersOf compiler.policy references) compiled.parameters := by
  rw [parameters_of_compile hscan hcompile]
  exact numbering compiler.policy _

/-- Where scanning finds no error, compiling has a result. -/
theorem exists_compile_of_scan {sql : String} {references : List Reference}
    (h : scan sql = .ok references) (compiler : Compiler) :
    ∃ compiled, compiler.compile sql = .ok compiled := by
  cases hcompile : compiler.compile sql with
  | ok compiled => exact ⟨compiled, rfl⟩
  | error error => simp [compile_eq_error_iff.mp hcompile] at h

/-- **Compiling rewrites exactly the markers.**  It fails just when scanning fails, with
the same error for every dialect and policy; otherwise the markers are replaced by the
placeholders of their numbers, all else is kept, and the policy says how the references
are numbered and which table they leave. -/
theorem compile_rewrites_markers (compiler : Compiler) (sql : String) :
    (∀ error, compiler.compile sql = .error error ↔ scan sql = .error error) ∧
    ∀ references, scan sql = .ok references →
      ∃ compiled indices, compiler.compile sql = .ok compiled ∧
        Rewrites compiler.dialect sql references indices compiled.sql ∧
        Numbering compiler.policy (references.map Reference.name) indices
          compiled.parameters := by
  refine ⟨fun error => compile_eq_error_iff, fun references hscan => ?_⟩
  obtain ⟨compiled, hcompile⟩ := exists_compile_of_scan hscan compiler
  exact ⟨compiled, numbersOf compiler.policy references, hcompile,
    rewrites_of_compile hscan hcompile, numbering_of_compile hscan hcompile⟩

/-- Two references to one name, one number. -/
theorem compile_rewrites_repeated_name :
    ∃ compiled indices, Compiler.standard.compile "x = :a OR y = :a" = .ok compiled ∧
      Rewrites .dollar "x = :a OR y = :a" [⟨"a", ⟨4, 2⟩⟩, ⟨"a", ⟨14, 2⟩⟩] indices compiled.sql ∧
      Numbering .collapse ["a", "a"] indices compiled.parameters :=
  (compile_rewrites_markers .standard "x = :a OR y = :a").2
    [⟨"a", ⟨4, 2⟩⟩, ⟨"a", ⟨14, 2⟩⟩] (by cbv)

end NamedSql.Sql
