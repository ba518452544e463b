/-
Names of parameters are labels.

Giving the markers of a query other names changes the bytes in front of what follows them and
all offsets behind, but no token around them, because every name ends with an identifier byte
and no lookahead goes past a colon.

* `renameMarkers` — a query with other names in its markers;
* `lex_rename` — its tokens are those of the query, the markers renamed;
* `ParameterTable.numberAll_rename` — numbering does not look at names, save for which are equal;
* `compile_rename` — the output is the same, and the table has the other names.
-/
import Mathlib
import NamedSql.Proofs.Lookahead
import NamedSql.Proofs.Regions

namespace NamedSql.Sql

/-- A table with other names. -/
def ParameterTable.rename (ρ : String → String) (table : ParameterTable) : ParameterTable :=
  table.map fun parameter => { parameter with name := ρ parameter.name }

/-- The markers of references once their names are others. -/
def renamedTexts (ρ : String → String) (references : List Reference) : List (List UInt8) :=
  references.map fun reference => Utf8.encode (":" ++ ρ reference.name)

@[simp] theorem renamedTexts_cons (ρ : String → String) (reference : Reference)
    (references : List Reference) :
    renamedTexts ρ (reference :: references) =
      (Byte.colon :: Utf8.encode (ρ reference.name)) :: renamedTexts ρ references :=
  congrArg (List.cons · _) (Utf8.encode_append ":" (ρ reference.name))

/-- A query with other names in all its markers, or, if a region is left open, in those in
front of it. -/
def renameMarkers (ρ : String → String) (sql : String) : String :=
  Utf8.decode (weave
    (stretches (Utf8.encode sql) 0 ((lexQuery sql).references.map Reference.span))
    (renamedTexts ρ (lexQuery sql).references))

/-- A token with another name, if it is a marker. -/
def Token.rename (ρ : String → String) (token : Token) : Token :=
  if token.kind = .marker then { token with text := Byte.colon :: Utf8.encode (ρ token.name) }
  else token

/-- Tokens with other names in the markers. -/
def Lexed.rename (ρ : String → String) (lexed : Lexed) : Lexed :=
  { lexed with tokens := lexed.tokens.map (Token.rename ρ) }

/-- The new names of markers are names. -/
def NamesMarkers (ρ : String → String) (tokens : List Token) : Prop :=
  ∀ token ∈ tokens, token.kind = .marker → IsName (Utf8.encode (ρ token.name))

variable {ρ : String → String}

/-! ### Tokens -/

@[simp] theorem Token.rename_marker {token : Token} (h : token.kind = .marker) :
    token.rename ρ = { kind := .marker, text := Byte.colon :: Utf8.encode (ρ token.name) } := by
  rw [Token.rename, if_pos h, h]

@[simp]
theorem Token.rename_skip {token : Token} (h : token.kind ≠ .marker) : token.rename ρ = token :=
  if_neg h

theorem Token.kind_rename (token : Token) : (token.rename ρ).kind = token.kind := by
  by_cases h : token.kind = .marker
  · simp [h]
  · simp [h]

theorem Token.name_rename {token : Token} (h : token.kind = .marker) :
    (token.rename ρ).name = ρ token.name := by
  rw [rename_marker h, Token.name, List.tail_cons, Utf8.decode_encode]

@[simp] theorem Lexed.text_cons (token : Token) (lexed : Lexed) :
    (lexed.cons token).text = token.text ++ lexed.text := by
  simp [Lexed.text, Lexed.cons]

@[simp] theorem Lexed.rename_cons (token : Token) (lexed : Lexed) :
    (lexed.cons token).rename ρ = (lexed.rename ρ).cons (token.rename ρ) := rfl

/-- Of a text with renamed markers, no token in front sees more than of the text itself. -/
theorem covers_rename (ρ : String → String) (prev : Option UInt8) (s : List UInt8) :
    Covers s ((lex prev s).rename ρ).text := by
  induction prev, s using lexInduction with
  | nil prev =>
    rw [lex_nil]
    exact .refl []
  | token prev kind text rest htoken ih =>
    rw [lex_append htoken, Lexed.rename_cons, Lexed.text_cons]
    by_cases hkind : kind = .marker
    · subst hkind
      rw [Token.rename_marker rfl]
      -- a marker starts with a colon, whatever its name is
      cases htoken with
      | marker => exact .of_not_isIdentByte (by decide) _ _
    · rw [Token.rename_skip hkind]
      exact ih.append text
  | unclosed prev what s hopen =>
    rw [lex_of_isOpen hopen]
    exact .refl s

/-- A text with renamed markers has the tokens of the text, with the markers renamed. -/
theorem lex_rename {prev : Option UInt8} {s : List UInt8}
    (hnames : NamesMarkers ρ (lex prev s).tokens) :
    lex prev ((lex prev s).rename ρ).text = (lex prev s).rename ρ := by
  induction prev, s using lexInduction with
  | nil prev =>
    rw [lex_nil]
    exact lex_nil prev
  | token prev kind text rest htoken ih =>
    rw [lex_append htoken] at hnames ⊢
    have hrest := ih fun token hmem => hnames token (List.mem_cons_of_mem _ hmem)
    have hcovers := covers_rename ρ text.getLast? rest
    rw [Lexed.rename_cons, Lexed.text_cons]
    by_cases hkind : kind = .marker
    · subst hkind
      have hname := hnames _ List.mem_cons_self rfl
      rw [Token.rename_marker rfl]
      cases htoken with
      | @marker old _ hprev hold hbehind =>
        have hident : ((lex (Byte.colon :: old).getLast? rest).rename ρ).text.head?.any
            isIdentByte = false := by
          rw [Bool.eq_false_iff]
          intro hhead
          rw [hcovers.identByte hhead] at hbehind
          exact absurd hbehind (by simp)
        rw [lex_append (.marker hprev hname hident)]
        -- both names end with an identifier byte
        exact congrArg (Lexed.cons _)
          ((lex_behind_ident (hname.followsIdent _) (hold.followsIdent _) _).trans hrest)
    · rw [Token.rename_skip hkind, lex_append (htoken.of_covers hcovers), hrest]
  | unclosed prev what s hopen =>
    rw [lex_of_isOpen hopen]
    exact lex_of_isOpen hopen

/-! ### The renamed query -/

/-- The tokens of a text, and what is left open at its end as one piece more. -/
def Lexed.pieces (lexed : Lexed) : List Token :=
  lexed.tokens ++ [{ kind := .plain, text := (lexed.unclosed.map Prod.snd).getD [] }]

theorem Lexed.flatMap_pieces (lexed : Lexed) : lexed.pieces.flatMap Token.text = lexed.text := by
  simp [pieces, text]

theorem Lexed.markers_pieces (lexed : Lexed) : markers lexed.pieces = markers lexed.tokens := by
  simp [pieces, markers]

theorem replaceMarkers_pieces (lexed : Lexed) :
    replaceMarkers lexed.pieces ((markers lexed.tokens).map fun token =>
      Byte.colon :: Utf8.encode (ρ token.name)) = (lexed.rename ρ).text := by
  obtain ⟨tokens, unclosed⟩ := lexed
  induction tokens with
  | nil => simp [Lexed.pieces, Lexed.rename, Lexed.text, replaceMarkers]
  | cons token rest ih =>
    have hpieces : Lexed.pieces { tokens := token :: rest, unclosed } =
        token :: Lexed.pieces { tokens := rest, unclosed } := rfl
    have htext : (Lexed.rename ρ { tokens := token :: rest, unclosed }).text =
        (token.rename ρ).text ++ (Lexed.rename ρ { tokens := rest, unclosed }).text :=
      Lexed.text_cons (token.rename ρ) (Lexed.rename ρ { tokens := rest, unclosed })
    rw [hpieces, htext, ← ih]
    by_cases hkind : token.kind = .marker
    · simp [hkind]
    · simp [hkind]

/-- The new texts of the markers, seen from the tokens. -/
theorem renamedTexts_eq (offset : Nat) (tokens : List Token) :
    renamedTexts ρ (referencesFrom offset tokens) =
      (markers tokens).map fun token => Byte.colon :: Utf8.encode (ρ token.name) := by
  have hnames := congrArg (List.map fun name => Utf8.encode (":" ++ ρ name))
    (referencesFrom_names offset tokens)
  rw [List.map_map, List.map_map] at hnames
  refine hnames.trans (List.map_congr_left fun token _ => ?_)
  exact Utf8.encode_append ":" (ρ token.name)

theorem Lexed.references_pieces (lexed : Lexed) :
    referencesFrom 0 lexed.pieces = lexed.references := by
  rw [pieces, referencesFrom_append, referencesFrom_skip _ (by simp)]
  exact List.append_nil _

/-- The bytes of a query with renamed markers. -/
theorem encode_renameMarkers (ρ : String → String) (sql : String) :
    Utf8.encode (renameMarkers ρ sql) = ((lexQuery sql).rename ρ).text := by
  have hbytes : (Utf8.encode sql).drop 0 = (lexQuery sql).pieces.flatMap Token.text := by
    rw [Lexed.flatMap_pieces]
    exact (lex_text none (Utf8.encode sql)).symm
  have hlength : (renamedTexts ρ (lexQuery sql).references).length =
      (markers (lexQuery sql).pieces).length := by
    rw [Lexed.references, renamedTexts_eq, List.length_map, Lexed.markers_pieces]
  have hmarkers : MarkersNamed (lexQuery sql).pieces := by
    intro token hmem hkind
    rcases List.mem_append.mp hmem with hmem | hmem
    · exact markersNamed_lexQuery sql token hmem hkind
    · rw [List.mem_singleton.mp hmem] at hkind
      exact absurd hkind (by simp)
  -- the weave is read as a text, so the new names have to be texts as well
  have htexts : ∀ text ∈ renamedTexts ρ (lexQuery sql).references, Utf8.IsText text := by
    intro text hmem
    obtain ⟨reference, -, rfl⟩ := List.mem_map.mp hmem
    exact Utf8.isText_encode _
  have htext := @isText_replaceMarkers _ _ [] hmarkers hlength htexts
    (hbytes ▸ Utf8.isText_encode sql)
  have hweave := weave_stretches hlength (Nat.le_refl 0) (Nat.zero_le _) hbytes
  rw [Lexed.references_pieces, List.take_zero, List.drop_nil] at hweave
  rw [renameMarkers, hweave, Utf8.encode_decode htext, List.nil_append, Lexed.references,
    renamedTexts_eq, replaceMarkers_pieces]

theorem lexQuery_renameMarkers {sql : String} (hnames : NamesMarkers ρ (lexQuery sql).tokens) :
    lexQuery (renameMarkers ρ sql) = (lexQuery sql).rename ρ := by
  rw [lexQuery, encode_renameMarkers]
  exact lex_rename hnames

/-! ### Numbers -/

namespace ParameterTable

variable {table : ParameterTable} {name : String}

theorem length_rename (ρ : String → String) (table : ParameterTable) :
    (table.rename ρ).length = table.length :=
  List.length_map _

theorem rename_push (ρ : String → String) (table : ParameterTable) (name : String) :
    (table.push name).rename ρ = (table.rename ρ).push (ρ name) := by
  rw [push, push, length_rename, rename, List.map_append]
  rfl

/-- A new name has the position of the old one, if no other name in the table became it too. -/
theorem indexOf?_rename
    (h : ∀ parameter ∈ table, ρ parameter.name = ρ name → parameter.name = name) :
    (table.rename ρ).indexOf? (ρ name) = table.indexOf? name := by
  induction table with
  | nil => rfl
  | cons parameter rest ih =>
    have hsame : ρ parameter.name = ρ name ↔ parameter.name = name :=
      ⟨h parameter List.mem_cons_self, congrArg ρ⟩
    have hrest := ih fun other hmem => h other (List.mem_cons_of_mem parameter hmem)
    rw [rename, List.map_cons, indexOf?_cons, indexOf?_cons, ← rename, hrest]
    simp only [hsame]

theorem number_rename {policy : NumberingPolicy}
    (h : policy = .collapse →
      ∀ parameter ∈ table, ρ parameter.name = ρ name → parameter.name = name) :
    (table.rename ρ).number policy (ρ name) =
      ((table.number policy name).1, (table.number policy name).2.rename ρ) := by
  cases policy with
  | perOccurrence => rw [number_perOccurrence, number_perOccurrence, rename_push, length_rename]
  | collapse =>
    rw [number_collapse, number_collapse, indexOf?_rename (h rfl)]
    cases table.indexOf? name with
    | some index => rfl
    | none => rw [rename_push, length_rename]

theorem name_of_mem_number {policy : NumberingPolicy} {parameter : Parameter}
    (h : parameter ∈ (table.number policy name).2) : parameter ∈ table ∨ parameter.name = name := by
  rcases number_cases policy table name with hnew | ⟨index, -, hold⟩
  · rw [hnew] at h
    exact (List.mem_append.mp h).imp id fun hmem => by rw [List.mem_singleton.mp hmem]
  · rw [hold] at h
    exact .inl h

/-- Numbering does not look at names, save for which are equal where they share numbers. -/
theorem numberAll_rename {policy : NumberingPolicy} {names : List String} {scope : Set String}
    (hinj : policy = .collapse → Set.InjOn ρ scope)
    (htable : ∀ parameter ∈ table, parameter.name ∈ scope) (hnames : ∀ name ∈ names, name ∈ scope) :
    (table.rename ρ).numberAll policy (names.map ρ) =
      ((table.numberAll policy names).1, (table.numberAll policy names).2.rename ρ) := by
  induction names generalizing table with
  | nil => rfl
  | cons name rest ih =>
    have hname : name ∈ scope := hnames name List.mem_cons_self
    -- two names that become one have been one, for both are in scope
    have hsame (hpolicy : policy = .collapse) (parameter : Parameter) (hmem : parameter ∈ table) :
        ρ parameter.name = ρ name → parameter.name = name :=
      ((hinj hpolicy).eq_iff (htable parameter hmem) hname).mp
    have hgrown : ∀ parameter ∈ (table.number policy name).2, parameter.name ∈ scope := by
      intro parameter hmem
      rcases name_of_mem_number hmem with hold | rfl
      · exact htable parameter hold
      · exact hname
    rw [List.map_cons, numberAll_cons, numberAll_cons, number_rename hsame,
      ih hgrown fun other hother => hnames other (List.mem_cons_of_mem name hother)]

end ParameterTable

/-! ### The compiled query -/

theorem markers_rename (tokens : List Token) :
    markers (tokens.map (Token.rename ρ)) = (markers tokens).map (Token.rename ρ) := by
  rw [markers, markers, List.filter_map]
  simp only [Function.comp_def, Token.kind_rename]

theorem names_rename (tokens : List Token) :
    (markers (tokens.map (Token.rename ρ))).map Token.name =
      ((markers tokens).map Token.name).map ρ := by
  rw [markers_rename, List.map_map, List.map_map]
  refine List.map_congr_left fun token hmem => ?_
  have hkind : token.kind = .marker := by simpa [markers] using (List.mem_filter.mp hmem).2
  exact Token.name_rename hkind

/-- Where the markers have been replaced, nothing is left of their names. -/
theorem replaceMarkers_rename (tokens : List Token) (texts : List (List UInt8)) :
    replaceMarkers (tokens.map (Token.rename ρ)) texts = replaceMarkers tokens texts := by
  induction tokens generalizing texts with
  | nil => rfl
  | cons token rest ih =>
    rw [List.map_cons, replaceMarkers, replaceMarkers, Token.kind_rename, ih, ih]
    by_cases hkind : token.kind = .marker
    · rw [if_pos hkind, if_pos hkind]
    · rw [if_neg hkind, if_neg hkind, Token.rename_skip hkind]

theorem substitute_rename {dialect : Dialect} {policy : NumberingPolicy} {tokens : List Token}
    (hinj : policy = .collapse → Set.InjOn ρ {name | name ∈ (markers tokens).map Token.name}) :
    substitute dialect policy [] (tokens.map (Token.rename ρ)) =
      ((substitute dialect policy [] tokens).1,
        (substitute dialect policy [] tokens).2.rename ρ) := by
  have hnumbers :
      ParameterTable.numberAll policy [] (((markers tokens).map Token.name).map ρ) = _ :=
    @ParameterTable.numberAll_rename ρ [] _ _ _ hinj (by simp) fun name hname => hname
  rw [substitute_eq, substitute_eq, names_rename, replaceMarkers_rename, hnumbers]

/-- The renamed tokens are longer or shorter by what all their markers have gained or lost. -/
theorem length_rename {tokens : List Token} (hmarkers : MarkersNamed tokens)
    {offset stop : Nat} (hstop : offset + (tokens.flatMap Token.text).length ≤ stop) :
    (((tokens.map (Token.rename ρ)).flatMap Token.text).length : Int) =
      (tokens.flatMap Token.text).length +
        displacement (referencesFrom offset tokens)
          (renamedTexts ρ (referencesFrom offset tokens)) stop := by
  induction tokens generalizing offset with
  | nil => rfl
  | cons token rest ih =>
    rw [List.flatMap_cons, List.length_append] at hstop
    have hrest := @ih (markersNamed_tail hmarkers) (offset + token.text.length) (by omega)
    rw [List.map_cons, List.flatMap_cons, List.flatMap_cons, List.length_append,
      List.length_append]
    push_cast
    rw [hrest]
    by_cases hkind : token.kind = .marker
    · obtain ⟨name, htext, -⟩ := hmarkers token List.mem_cons_self hkind
      have hbefore : offset < stop := by
        rw [htext, List.length_cons] at hstop
        omega
      rw [referencesFrom_marker offset hkind, Token.rename_marker hkind, renamedTexts_cons,
        displacement, if_pos hbefore]
      dsimp only
      omega
    · rw [referencesFrom_skip offset hkind, Token.rename_skip hkind]
      omega

/-- The error stands behind all markers, so it moves by what they have gained or lost. -/
theorem error?_rename (ρ : String → String) {sql : String} {error : ScanError}
    (herror : (lexQuery sql).error? = some error) :
    ∃ moved, ((lexQuery sql).rename ρ).error? = some moved ∧ moved.what = error.what ∧
      moved.span.length = error.span.length ∧
      (moved.span.offset : Int) = error.span.offset + displacement (lexQuery sql).references
        (renamedTexts ρ (lexQuery sql).references) error.span.offset := by
  obtain ⟨⟨what, left⟩, hopen, rfl⟩ := Option.map_eq_some_iff.mp herror
  refine ⟨_, congrArg (Option.map _) hopen, rfl, rfl, ?_⟩
  exact length_rename (markersNamed_lexQuery sql) (Nat.le_of_eq (Nat.zero_add _))

/-- **Names of parameters are labels.**  When the markers of a query get other names, which are
different where those of the query were, or need not be if each reference has a number of its
own, then compiling gives the same output and a table with the other names in the place of the
old ones, or the same error, as far behind as the markers in front of it became longer. -/
theorem compile_rename {sql : String}
    (hnames : ∀ reference ∈ (lexQuery sql).references, IsName (Utf8.encode (ρ reference.name)))
    (compiler : Compiler)
    (hinj : compiler.policy = .collapse →
      Set.InjOn ρ {name | name ∈ (lexQuery sql).references.map Reference.name}) :
    (∀ compiled, compiler.compile sql = .ok compiled →
      compiler.compile (renameMarkers ρ sql) =
        .ok { compiled with parameters := compiled.parameters.rename ρ }) ∧
    ∀ error, compiler.compile sql = .error error →
      ∃ moved, compiler.compile (renameMarkers ρ sql) = .error moved ∧ moved.what = error.what ∧
        moved.span.length = error.span.length ∧
        (moved.span.offset : Int) = error.span.offset + displacement (lexQuery sql).references
          (renamedTexts ρ (lexQuery sql).references) error.span.offset := by
  have hreferenced : (lexQuery sql).references.map Reference.name =
      (markers (lexQuery sql).tokens).map Token.name := referencesFrom_names 0 _
  -- what the references are renamed to are names, so the markers are markers still
  have hmarkers : NamesMarkers ρ (lexQuery sql).tokens := by
    intro token hmem hkind
    have hname : token.name ∈ (lexQuery sql).references.map Reference.name := by
      rw [hreferenced]
      exact List.mem_map_of_mem (List.mem_filter.mpr ⟨hmem, by simpa using hkind⟩)
    obtain ⟨reference, hreference, hsame⟩ := List.mem_map.mp hname
    exact hsame ▸ hnames reference hreference
  have hrenamed := lexQuery_renameMarkers hmarkers
  constructor
  · intro compiled hcompile
    obtain ⟨hclosed, hsubstitute⟩ := compile_eq_ok_iff.mp hcompile
    rw [compile_eq_ok_iff, hrenamed, Lexed.rename, substitute_rename (hreferenced ▸ hinj),
      ← hsubstitute]
    exact ⟨hclosed, rfl⟩
  · intro error hcompile
    rw [compile_eq_error_iff, scan_eq_error_iff] at hcompile
    obtain ⟨moved, hmoved, hwhere⟩ := error?_rename ρ hcompile
    refine ⟨moved, ?_, hwhere⟩
    rw [compile_eq_error_iff, scan_eq_error_iff, hrenamed]
    exact hmoved

/-- The names come to end like an escape string begins, in front of a quote. -/
theorem compile_rename_before_quote :
    Compiler.standard.compile ":aE'x' || :bE || :aE" =
      .ok { sql := "$1'x' || $2 || $1", parameters := [⟨"aE", 1⟩, ⟨"bE", 2⟩] } := by
  have hreferences : (lexQuery ":a'x' || :b || :a").references =
      [⟨"a", ⟨0, 2⟩⟩, ⟨"b", ⟨9, 2⟩⟩, ⟨"a", ⟨15, 2⟩⟩] := by cbv
  have hcompile : Compiler.standard.compile ":a'x' || :b || :a" =
      .ok { sql := "$1'x' || $2 || $1", parameters := [⟨"a", 1⟩, ⟨"b", 2⟩] } := by cbv
  have hrename : renameMarkers (· ++ "E") ":a'x' || :b || :a" = ":aE'x' || :bE || :aE" := by cbv
  have hnames : ∀ reference ∈ (lexQuery ":a'x' || :b || :a").references,
      IsName (Utf8.encode (reference.name ++ "E")) := by
    rw [hreferences]
    simp only [IsName]
    decide +kernel
  have hcompiled := (@compile_rename (· ++ "E") _ hnames .standard fun _ name _ other _ =>
    (String.append_left_inj "E").mp).1 _ hcompile
  rw [hrename] at hcompiled
  exact hcompiled

end NamedSql.Sql
