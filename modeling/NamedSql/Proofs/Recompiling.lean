/-
Compiling a compiled query.

A query that compiles to itself with no parameters is one without markers (`Lexed.Inert`).
Whether the output of a compilation is such a query is decided at its first clash.

* `fromClash` — the output from its first clash on;
* `recompile_iff` — compiling the output is the identity exactly when nothing is left to
  compile from the first clash on;
* `recompile_of_atP_or_colon` — two dialects never clash.
-/
import Mathlib
import NamedSql.Proofs.Rereading

namespace NamedSql.Sql

/-- Neither a marker nor a region left open. -/
def Lexed.Inert (lexed : Lexed) : Prop :=
  lexed.unclosed = none ∧ markers lexed.tokens = []

/-- The output from the first clash on, if there is one. -/
def fromClash (dialect : Dialect) (policy : NumberingPolicy) (table : ParameterTable)
    (last : Option Token) : List Token → Option (List UInt8)
  | [] => none
  | token :: rest =>
    if clashes dialect last (token :: rest) then
      some (substitute dialect policy table (token :: rest)).1
    else if token.kind = .marker then
      fromClash dialect policy (table.number policy token.name).2 (some token) rest
    else fromClash dialect policy table (some token) rest

/-! ### Inert texts -/

@[simp] theorem Lexed.inert_cons {token : Token} (h : token.kind ≠ .marker) (lexed : Lexed) :
    (lexed.cons token).Inert ↔ lexed.Inert := by
  rw [Inert, Inert, Lexed.cons, markers_skip _ h]

theorem Lexed.inert_prepend (bytes : List UInt8) (lexed : Lexed) :
    (lexed.prepend bytes).Inert ↔ lexed.Inert := by
  induction bytes with
  | nil => rfl
  | cons b bytes ih => rw [prepend_cons, inert_cons (by simp), ih]

theorem inert_relexed_iff (dialect : Dialect) (policy : NumberingPolicy) (table : ParameterTable)
    (last : Option Token) (tokens : List Token) :
    (relexed dialect policy table last tokens).Inert ↔
      ∀ text ∈ fromClash dialect policy table last tokens, (lex none text).Inert := by
  induction tokens generalizing table last with
  | nil => simp [relexed, fromClash, Lexed.Inert, markers]
  | cons token rest ih =>
    rw [relexed, fromClash]
    by_cases hclash : clashes dialect last (token :: rest) = true
    · simp [hclash]
    rw [if_neg hclash, if_neg hclash]
    by_cases hkind : token.kind = .marker
    · rw [if_pos hkind, if_pos hkind, Lexed.inert_prepend, ih]
    · rw [if_neg hkind, if_neg hkind, Lexed.inert_cons hkind, ih]

/-! ### Compiling to itself -/

theorem numberAll_table_eq_nil_iff {policy : NumberingPolicy} {names : List String} :
    (ParameterTable.numberAll policy [] names).2 = [] ↔ names = [] := by
  constructor
  · intro h
    have hmem := ParameterTable.numberAll_mem policy [] names
    rw [h] at hmem
    cases hmem with
    | nil => rfl
    | cons hfirst => exact absurd hfirst (by simp)
  · rintro rfl
    rfl

theorem compile_eq_self_iff {compiler : Compiler} {sql : String} :
    compiler.compile sql = .ok { sql, parameters := [] } ↔ (lexQuery sql).Inert := by
  -- one marker is enough for an entry in the table
  rw [compile_eq_ok_iff, Lexed.Inert, substitute_eq, Prod.mk.injEq]
  refine and_congr_right fun hclosed => ⟨fun ⟨_, hparameters⟩ => ?_, fun hmarkers => ?_⟩
  · exact List.map_eq_nil_iff.mp (numberAll_table_eq_nil_iff.mp hparameters.symm)
  · have htext := replaceMarkers_text (lexQuery sql).tokens
    rw [hmarkers, text_of_closed hclosed] at htext
    rw [hmarkers]
    exact ⟨htext.symm, rfl⟩

theorem lexQuery_compiled {compiler : Compiler} {sql : String} {compiled : CompiledSql}
    (h : compiler.compile sql = .ok compiled) :
    lexQuery compiled.sql =
      relexed compiler.dialect compiler.policy [] none (lexQuery sql).tokens := by
  obtain ⟨hclosed, hsubstitute⟩ := compile_eq_ok_iff.mp h
  rw [lexQuery, (Prod.mk.inj hsubstitute).1]
  exact @lex_substitute compiler.dialect compiler.policy [] none none _ hclosed (.same rfl)

theorem inert_compiled_iff {compiler : Compiler} {sql : String} {compiled : CompiledSql}
    (h : compiler.compile sql = .ok compiled) :
    (lexQuery compiled.sql).Inert ↔
      ∀ text ∈ fromClash compiler.dialect compiler.policy [] none (lexQuery sql).tokens,
        (lex none text).Inert := by
  rw [lexQuery_compiled h, inert_relexed_iff]

/-- **Compiling the output again** is the identity, under any dialect and policy, exactly
when from its first clash on the output has neither a marker nor a region left open. -/
theorem recompile_iff (compiler other : Compiler) {sql : String} {compiled : CompiledSql}
    (h : compiler.compile sql = .ok compiled) :
    other.compile compiled.sql = .ok { sql := compiled.sql, parameters := [] } ↔
      ∀ text ∈ fromClash compiler.dialect compiler.policy [] none (lexQuery sql).tokens,
        (lex none text).Inert := by
  rw [compile_eq_self_iff, inert_compiled_iff h]

/-- Two clashes that make up for each other: the second closes the quote of the first. -/
theorem recompile_closed_quote :
    Compiler.standard.compile "$:a $:b" =
        .ok { sql := "$$1 $$2", parameters := [⟨"a", 1⟩, ⟨"b", 2⟩] } ∧
      Compiler.standard.compile "$$1 $$2" = .ok { sql := "$$1 $$2", parameters := [] } := by
  have hcompile : Compiler.standard.compile "$:a $:b" =
      .ok { sql := "$$1 $$2", parameters := [⟨"a", 1⟩, ⟨"b", 2⟩] } := by cbv
  refine ⟨hcompile, (recompile_iff .standard .standard hcompile).mpr fun text htext => ?_⟩
  have hclash : fromClash Compiler.standard.dialect Compiler.standard.policy [] none
      (lexQuery "$:a $:b").tokens = some (Utf8.encode "$$1 $$2") := by cbv
  rw [hclash] at htext
  obtain rfl : Utf8.encode "$$1 $$2" = text := Option.some.inj htext
  exact ⟨by cbv, by cbv⟩

/-- The `$` of a placeholder can also open a quote that nothing closes. -/
theorem not_recompile_open_quote :
    ¬ ∀ (compiler other : Compiler) (sql : String) (compiled : CompiledSql),
      compiler.compile sql = .ok compiled →
        other.compile compiled.sql = .ok { sql := compiled.sql, parameters := [] } := by
  intro h
  have hcompile : Compiler.standard.compile "$:a" =
      .ok { sql := "$$1", parameters := [⟨"a", 1⟩] } := by cbv
  obtain ⟨hclosed, -⟩ := compile_eq_self_iff.mp (h .standard .standard _ _ hcompile)
  have hopen : (lexQuery "$$1").unclosed = some (.dollarQuote, Utf8.encode "$$1") := by cbv
  rw [hopen] at hclosed
  exact absurd hclosed (by simp)

/-- Neither `@p` nor a colon before a number clashes with anything. -/
theorem fromClash_eq_none {dialect : Dialect} (h : dialect = .atP ∨ dialect = .colon)
    (policy : NumberingPolicy) (table : ParameterTable) (last : Option Token)
    (tokens : List Token) : fromClash dialect policy table last tokens = none := by
  induction tokens generalizing table last with
  | nil => rfl
  | cons token rest ih =>
    have hclash : clashes dialect last (token :: rest) = false := by
      rcases h with rfl | rfl <;> rfl
    rw [fromClash, hclash, if_neg Bool.false_ne_true, ih, ih, ite_self]

/-- Under these two dialects every output compiles to itself. -/
theorem recompile_of_atP_or_colon {compiler : Compiler}
    (hdialect : compiler.dialect = .atP ∨ compiler.dialect = .colon) {sql : String}
    {compiled : CompiledSql} (h : compiler.compile sql = .ok compiled) (other : Compiler) :
    other.compile compiled.sql = .ok { sql := compiled.sql, parameters := [] } := by
  rw [compile_eq_self_iff, inert_compiled_iff h, fromClash_eq_none hdialect]
  simp

end NamedSql.Sql
