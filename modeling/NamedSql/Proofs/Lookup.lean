/-
The look-up in the generated code and the look-up by the program.

The code of a query looks a parameter up in a match on the name, with one arm for each name in the
table.  What is in the lines is read back as arms, and these give what searching the table gives,
whatever names the table holds and in whatever order.

* `Lookup.evaluate` — what a look-up gives: the first arm with the name, else nothing;
* `Lookup.ofCode?` — the look-up that lines of code are;
* `indexOf?_firstOccurrences` — leaving out what comes again changes no position;
* `ofCode?_lookupCode` — the arms of the generated code;
* `lookup_agrees` — both look-ups agree on every name.
-/
import Mathlib
import NamedSql.Proofs.Containment
import NamedSql.Proofs.Numbering

namespace NamedSql.Code

open Literal Stretch

/-! ### Look-ups -/

/-- A look-up of a position by name. -/
inductive Lookup where
  /-- Nothing, whatever the name is. -/
  | constant
  /-- A match on the name, with a position for each of some names and nothing for all else. -/
  | matching (arms : List (String × Nat))
  deriving DecidableEq, Repr

namespace Lookup

/-- The names with an arm. -/
def names : Lookup → List String
  | .constant => []
  | .matching arms => arms.map Prod.fst

/-- What a look-up gives for a name. -/
def evaluate (lookup : Lookup) (name : String) : Option Nat :=
  match lookup with
  | .constant => none
  | .matching arms => (arms.find? fun arm => arm.1 = name).map Prod.snd

end Lookup

/-! ### Reading look-ups -/

/-- The argument of the function, from the line that opens it. -/
def argumentOf? (head : Stretch) : Option String :=
  (nameAfter? "pub fn param_index(" head.shown.toList).bind fun argument =>
    if head = plain ("pub fn param_index(" ++ argument
        ++ ": &str) -> ::core::option::Option<usize> \x7b") then some argument
    else none

/-- The name and the position of an arm. -/
def readArm? : CodeLine → Option (String × Nat)
  | .code { shown, literals := [name] } =>
    let opening := "\"\" => ::core::option::Option::Some(".toList
    let behind := shown.toList.drop opening.length
    if opening.isPrefixOf shown.toList ∧ behind.dropWhile Char.isDigit = "),".toList then
      some (name, Nat.ofDigitChars 10 (behind.takeWhile Char.isDigit) 0)
    else none
  | _ => none

/-- The arms of a match up to the one for all else, with nothing behind it but the ends of the
match and of the function. -/
def readArms? : List CodeLine → Option (List (String × Nat))
  | [] => none
  | line :: rest =>
    if line = codeLine "_ => ::core::option::Option::None," then
      if rest = [codeLine "\x7d", codeLine "\x7d"] then some [] else none
    else
      match readArm? line with
      | some arm => (readArms? rest).map (arm :: ·)
      | none => none

/-- The look-up that a function is. -/
def Lookup.ofCode? : List CodeLine → Option Lookup
  | .documentation _ :: rest => ofCode? rest
  | .code head :: first :: rest =>
    match argumentOf? head with
    | none => none
    | some argument =>
      if first = codeLine "::core::option::Option::None" then
        if rest = [codeLine "\x7d"] then some .constant else none
      else if first = codeLine ("match " ++ argument ++ " \x7b") then
        (readArms? rest).map .matching
      else none
  | _ => none

/-! ### First occurrences -/

section

variable {seen : List String} {table : Sql.ParameterTable} {name : String}

theorem mem_names_firstOccurrences :
    name ∈ (firstOccurrences seen table).map Sql.Parameter.name ↔
      name ∈ table.map Sql.Parameter.name ∧ name ∉ seen := by
  fun_induction firstOccurrences seen table with
  | case1 => simp
  | case2 seen parameter rest hseen ih =>
    rw [ih, List.map_cons, List.mem_cons]
    constructor
    · rintro ⟨hmem, hnew⟩
      exact ⟨.inr hmem, hnew⟩
    · -- the name that is left out has been seen, and so is not asked for
      rintro ⟨rfl | hmem, hnew⟩
      · exact absurd hseen hnew
      · exact ⟨hmem, hnew⟩
  | case3 seen parameter rest hseen ih =>
    rw [List.map_cons, List.mem_cons, ih, List.map_cons, List.mem_cons, List.mem_cons, not_or]
    by_cases hname : name = parameter.name
    · rw [hname]
      exact iff_of_true (.inl rfl) ⟨.inl rfl, hseen⟩
    · rw [or_iff_right hname, or_iff_right hname, and_iff_right hname]

theorem nodup_names_firstOccurrences (seen : List String) (table : Sql.ParameterTable) :
    ((firstOccurrences seen table).map Sql.Parameter.name).Nodup := by
  fun_induction firstOccurrences seen table with
  | case1 => exact .nil
  | case2 seen parameter rest hseen ih => exact ih
  | case3 seen parameter rest hseen ih =>
    rw [List.map_cons, List.nodup_cons, mem_names_firstOccurrences]
    exact ⟨fun hmem => hmem.2 List.mem_cons_self, ih⟩

/-- Leaving out what comes again changes no position. -/
theorem indexOf?_firstOccurrences (h : name ∉ seen) :
    (firstOccurrences seen table).indexOf? name = table.indexOf? name := by
  fun_induction firstOccurrences seen table with
  | case1 => rfl
  | case2 seen parameter rest hseen ih =>
    -- the name looked up has not been seen, so it is not the one left out
    rw [ih h, Sql.ParameterTable.indexOf?_cons, if_neg]
    rintro rfl
    exact h hseen
  | case3 seen parameter rest hseen ih =>
    rw [Sql.ParameterTable.indexOf?_cons, Sql.ParameterTable.indexOf?_cons]
    by_cases hname : parameter.name = name
    · rw [if_pos hname, if_pos hname]
    · rw [if_neg hname, if_neg hname, ih (List.not_mem_cons_of_ne_of_not_mem (Ne.symm hname) h)]

end

/-! ### The look-up of a query -/

/-- The arms of a table. -/
def armsOf (table : Sql.ParameterTable) : List (String × Nat) :=
  (firstOccurrences [] table).map fun parameter => (parameter.name, parameter.index)

/-- The look-up of a table. -/
def lookupOf (table : Sql.ParameterTable) : Lookup :=
  if table.isEmpty then .constant else .matching (armsOf table)

theorem readArm?_armStretch (parameter : Sql.Parameter) :
    readArm? (.code (armStretch parameter)) = some (parameter.name, parameter.index) := by
  -- the literal is shown empty; behind the opening stand the digits
  have hshown : (armStretch parameter).shown.toList =
      "\"\" => ::core::option::Option::Some(".toList
        ++ (Nat.toDigits 10 parameter.index ++ [')', ',']) := by
    have hdigits : (toString parameter.index).toList = Nat.toDigits 10 parameter.index := by
      rw [Nat.toString_eq_repr, Nat.toList_repr]
    rw [← hdigits]
    simp only [armStretch, append_def, literal, plain, String.toList_append]
    rfl
  have harm : readArm? (.code { shown := (armStretch parameter).shown
                                literals := [parameter.name] }) =
      some (parameter.name, parameter.index) := by
    rw [readArm?, hshown, List.drop_left, dropWhile_toDigits _ rfl, takeWhile_toDigits _ rfl,
      Nat.ofDigitChars_toDigits (by decide) (by decide),
      if_pos ⟨List.isPrefixOf_iff_prefix.mpr (List.prefix_append _ _), rfl⟩]
  exact harm

theorem readArms?_armStretch (table : Sql.ParameterTable) :
    readArms? ((table.map armStretch).map .code ++ [codeLine "_ => ::core::option::Option::None,",
      codeLine "\x7d", codeLine "\x7d"]) =
      some (table.map fun parameter => (parameter.name, parameter.index)) := by
  induction table with
  | nil => rfl
  | cons parameter rest ih =>
    -- an arm has a literal, and the line for all else has none
    have hne : CodeLine.code (armStretch parameter) ≠
        codeLine "_ => ::core::option::Option::None," := by
      intro heq
      have hliterals := congrArg Stretch.literals (CodeLine.code.inj heq)
      exact List.cons_ne_nil parameter.name [] hliterals
    rw [List.map_cons, List.map_cons, List.cons_append, readArms?, if_neg hne,
      readArm?_armStretch]
    dsimp only
    rw [ih]
    rfl

/-- The function reads as the look-up of the table. -/
theorem ofCode?_lookupCode (table : Sql.ParameterTable) :
    Lookup.ofCode? (lookupCode table) = some (lookupOf table) := by
  cases table with
  | nil => rfl
  | cons parameter rest =>
    have hcode : lookupCode (parameter :: rest) =
        .documentation "Position to bind `name` at, or `None` if the query does not use it." ::
          codeLine "pub fn param_index(name: &str) -> ::core::option::Option<usize> \x7b" ::
          codeLine "match name \x7b" ::
          (((firstOccurrences [] (parameter :: rest)).map armStretch).map .code
            ++ [codeLine "_ => ::core::option::Option::None,", codeLine "\x7d",
              codeLine "\x7d"]) := by
      simp [lookupCode, functionCode, codeLine]
    have hargument : argumentOf?
        (plain "pub fn param_index(name: &str) -> ::core::option::Option<usize> \x7b") =
          some "name" :=
      rfl
    -- the documentation is read over, so the reader is unfolded twice
    rw [hcode, Lookup.ofCode?, codeLine, Lookup.ofCode?, hargument, readArms?_armStretch]
    dsimp only
    rw [if_neg (by decide), if_pos (by decide)]
    rfl

section

variable (table : Sql.ParameterTable)

theorem names_lookupOf :
    (lookupOf table).names = (firstOccurrences [] table).map Sql.Parameter.name := by
  cases table with
  | nil => rfl
  | cons parameter rest =>
    show (armsOf _).map Prod.fst = _
    rw [armsOf, List.map_map]
    rfl

/-- A look-up in the code gives the first position of a name. -/
theorem evaluate_lookupOf (name : String) :
    (lookupOf table).evaluate name = table.indexOf? name := by
  cases table with
  | nil => rfl
  | cons parameter rest =>
    rw [← indexOf?_firstOccurrences List.not_mem_nil]
    -- arms are searched by name as the table is
    show ((armsOf _).find? _).map Prod.snd = _
    rw [armsOf, List.find?_map, Option.map_map]
    rfl

theorem lookupOf_eq_constant_iff : lookupOf table = .constant ↔ table = [] := by
  cases table with
  | nil => exact iff_of_true rfl rfl
  | cons parameter rest => exact iff_of_false Lookup.noConfusion (List.cons_ne_nil _ _)

end

theorem parameters_of_ofSource {compiler : Sql.Compiler} {file : QueryFile} {rawSql : String}
    {query : Query} (h : Query.ofSource compiler file rawSql = .ok query) :
    ∃ compiled, compiler.compile rawSql = .ok compiled ∧
      query.parameters = compiled.parameters := by
  unfold Query.ofSource at h
  split at h
  next compiled hcompiled => exact ⟨compiled, hcompiled, by cases h; rfl⟩
  next => cases h

/-! ### Where the look-up stands -/

/-- The functions of a query are all in the code of its catalog. -/
theorem infix_codeLines {compiler : Sql.Compiler} {catalog : Catalog} {code : String}
    (h : generate compiler catalog = .ok code) {query : Query} (hquery : query ∈ catalog.queries) :
    shows (paramIndexFunction query) <:+: codeLines code := by
  obtain ⟨-, rfl⟩ := generate_eq_ok_iff.mp h
  obtain ⟨entry, hentry, hquery⟩ := List.mem_flatMap.mp hquery
  -- the function is indented once for its type and once more for the module
  have hfunction : indent (paramIndexFunction query) <:+: functionsItem query :=
    (List.IsInfix.map _ (infix_intercalate _ (by simp))).trans (infix_block _ _)
  have hmodule : indent (functionsItem query) <:+: moduleItem entry.1 entry.2 := by
    refine (List.IsInfix.map _ (infix_intercalate _ ?_)).trans (infix_block _ _)
    exact List.mem_flatMap.mpr ⟨query, hquery, by simp [queryItems]⟩
  have hcatalog : moduleItem entry.1 entry.2 <:+: catalogLines compiler catalog :=
    infix_intercalate _ (List.mem_cons_of_mem _ (List.mem_map_of_mem hentry))
  have hlines : indent (indent (paramIndexFunction query)) <:+: catalogLines compiler catalog :=
    ((List.IsInfix.map _ hfunction).trans hmodule).trans hcatalog
  have hshown := hlines.filterMap CodeLine.ofLine?
  rw [overlooks_ofCodeLine?.filterMap_indent, overlooks_ofCodeLine?.filterMap_indent] at hshown
  rw [codeLines, map_ofList_splitOn_text]
  exact hshown

/-- **The generated look-up agrees with searching the table.**  Whatever names a query has in its
table, the function in its code reads as a look-up, and as the same one wherever the query stands
in a catalog.  For every name the look-up gives the first position of the name in the table, and
for a compiled query the first position in the table of the compiled SQL.  It is constant just
when the table is empty, no two of its arms have one name, and the names with an arm are those in
the table. -/
theorem lookup_agrees (query : Query) :
    ∃ (lines : List CodeLine) (lookup : Lookup),
      shows (paramIndexFunction query) = lines.map some ∧
      Lookup.ofCode? lines = some lookup ∧
      (∀ compiler catalog code, generate compiler catalog = .ok code →
        query ∈ catalog.queries → lines.map some <:+: codeLines code) ∧
      (∀ name, lookup.evaluate name = query.indexOf? name) ∧
      (lookup = .constant ↔ query.parameters = []) ∧
      lookup.names.Nodup ∧
      (∀ name, name ∈ lookup.names ↔ name ∈ query.parameters.map Sql.Parameter.name) ∧
      ∀ compiler file rawSql, Query.ofSource compiler file rawSql = .ok query →
        ∃ compiled, compiler.compile rawSql = .ok compiled ∧
          ∀ name, lookup.evaluate name = compiled.parameters.indexOf? name := by
  refine ⟨lookupCode query.parameters, lookupOf query.parameters, shows_paramIndexFunction query,
    ofCode?_lookupCode _, fun compiler catalog code hcode hquery => ?_, evaluate_lookupOf _,
    lookupOf_eq_constant_iff _, ?_, fun name => ?_, fun compiler file rawSql hsource => ?_⟩
  · rw [← shows_paramIndexFunction]
    exact infix_codeLines hcode hquery
  · rw [names_lookupOf]
    exact nodup_names_firstOccurrences [] _
  · rw [names_lookupOf, mem_names_firstOccurrences]
    exact and_iff_left List.not_mem_nil
  · obtain ⟨compiled, hcompiled, hparameters⟩ := parameters_of_ofSource hsource
    refine ⟨compiled, hcompiled, fun name => ?_⟩
    rw [evaluate_lookupOf, hparameters]

/-- A query that refers twice to one name, with a position for each reference. -/
def repeatedQuery : Query where
  path := "/q/users/search.sql"
  relativePath := "users/search.sql"
  name := { group := "Users", accessor := "Search", key := "UsersSearch" }
  rawSql := "SELECT '\"é' WHERE a = :q OR b = :q OR c = :r"
  sql := "SELECT '\"é' WHERE a = ? OR b = ? OR c = ?"
  parameters :=
    [{ name := "q", index := 1 }, { name := "q", index := 2 }, { name := "r", index := 3 }]

theorem lookup_agrees_repeated_name :
    ∃ (code : String) (lines : List CodeLine) (lookup : Lookup) (compiled : Sql.CompiledSql),
      generate (.of .question none) { groups := [("Users", [repeatedQuery])] } = .ok code ∧
      lines.map some <:+: codeLines code ∧
      Lookup.ofCode? lines = some lookup ∧
      lookup.evaluate "q" = some 1 ∧ lookup.evaluate "r" = some 3 ∧ lookup.evaluate "s" = none ∧
      Sql.Compiler.compile (.of .question none) repeatedQuery.rawSql = .ok compiled ∧
      ∀ name, lookup.evaluate name = compiled.parameters.indexOf? name := by
  obtain ⟨lines, lookup, -, hlookup, hcatalog, hagrees, -, -, -, hsource⟩ :=
    lookup_agrees repeatedQuery
  have hmodules : ([("Users", [repeatedQuery])].map fun entry => moduleName entry.1).Nodup :=
    List.nodup_singleton _
  have hcode : generate (.of .question none) { groups := [("Users", [repeatedQuery])] } =
      .ok (text (catalogLines (.of .question none) { groups := [("Users", [repeatedQuery])] })) :=
    generate_eq_ok_iff.mpr ⟨hmodules, rfl⟩
  obtain ⟨compiled, hcompiled, hsame⟩ := hsource (.of .question none)
    repeatedQuery.toQueryFile repeatedQuery.rawSql (by decide +kernel)
  refine ⟨_, lines, lookup, compiled, hcode, hcatalog _ _ _ hcode List.mem_cons_self, hlookup,
    ?_, ?_, ?_, hcompiled, hsame⟩
  · rw [hagrees]
    decide
  · rw [hagrees]
    decide
  · rw [hagrees]
    decide

end NamedSql.Code
