/-
Texts stay where they belong.

All lines of generated code are written down here, as they are read with their literals emptied.
The path of a file shows in lines of documentation, and the texts in a query show in literals that
end where they start.  All else is fixed but for the names of modules and types and the positions
of parameters.  So neither the path of a file nor anything in it can add, remove or break a line
of code.

* `queryCode`, `moduleCode`, `headerCode` — the lines of a catalog;
* `shows_queryItems`, `shows_moduleItem` — they are the lines of its code;
* `isItemName_moduleName` — modules have names that are identifiers;
* `codeLines_generate` — the code of a collected catalog.
-/
import Mathlib
import NamedSql.Proofs.Decoding
import NamedSql.Proofs.Grouping
import NamedSql.Proofs.Modules
import NamedSql.Proofs.Reading

namespace NamedSql.Code

open Literal Stretch

/-! ### The lines of a catalog -/

/-- The lines of a function. -/
def functionCode (doc signature : String) (body : List Stretch) : List CodeLine :=
  [.documentation doc, codeLine ("pub fn " ++ signature ++ " \x7b")]
    ++ body.map .code
    ++ [codeLine "\x7d"]

/-- A parameter table. -/
def tableStretch (table : Sql.ParameterTable) : Stretch :=
  { shown := "&[" ++ ", ".intercalate (table.map fun parameter =>
      "(\"\", " ++ toString parameter.index ++ ")") ++ "]"
    literals := table.map Sql.Parameter.name }

/-- The arm that finds a parameter. -/
def armStretch (parameter : Sql.Parameter) : Stretch :=
  literal parameter.name
    ++ plain (" => ::core::option::Option::Some(" ++ toString parameter.index ++ "),")

/-- The look-up of a parameter. -/
def lookupCode (table : Sql.ParameterTable) : List CodeLine :=
  let doc := "Position to bind `name` at, or `None` if the query does not use it."
  if table.isEmpty then
    functionCode doc "param_index(_name: &str) -> ::core::option::Option<usize>"
      [plain "::core::option::Option::None"]
  else
    functionCode doc "param_index(name: &str) -> ::core::option::Option<usize>"
      ([plain "match name \x7b"]
        ++ (firstOccurrences [] table).map armStretch
        ++ [plain "_ => ::core::option::Option::None,", plain "\x7d"])

/-- The lines of a query. -/
def queryCode (query : Query) : List CodeLine :=
  (textLines ("`" ++ query.relativePath ++ "`")).map CodeLine.documentation
    ++ [codeLine "#[derive(Debug, Clone, Copy)]",
      codeLine ("pub struct " ++ query.name.accessor ++ ";"),
      codeLine ("impl " ++ query.name.accessor ++ " \x7b")]
    ++ functionCode "SQL with positional placeholders, ready to hand to the driver."
      "sql() -> &'static str" [literal query.sql]
    ++ functionCode "SQL as written, with named parameters."
      "raw_sql() -> &'static str" [literal query.rawSql]
    ++ functionCode "Parameter names and their 1-based positions, sorted by position."
      "params() -> &'static [(&'static str, usize)]" [tableStretch query.parameters]
    ++ lookupCode query.parameters
    ++ [codeLine "\x7d"]

/-- The lines of a namespace. -/
def moduleCode (group : String) (queries : List Query) : List CodeLine :=
  [codeLine ("pub mod " ++ moduleName group ++ " \x7b")]
    ++ queries.flatMap queryCode
    ++ [codeLine "\x7d"]

/-- The lines in front. -/
def headerCode (compiler : Sql.Compiler) : List CodeLine :=
  [codeLine "// Generated by sqlgen. Do not edit.",
    codeLine ("// dialect: " ++ compiler.dialect.name ++ ", parameters: "
      ++ compiler.policy.name)]

/-! ### Parameters -/

theorem readsAs_lookupArm (parameter : Sql.Parameter) :
    ReadsAs (lookupArm parameter) (armStretch parameter) := by
  have hopening : " => " ++ optionType ++ "::Some(" = " => ::core::option::Option::Some(" := by
    rfl
  -- an arm is a literal and a stretch without quotes behind it
  have harm : lookupArm parameter = encode parameter.name ++
      (" => ::core::option::Option::Some(" ++ toString parameter.index ++ "),") := by
    rw [lookupArm, ← hopening]
    simp only [String.append_assoc]
  rw [harm, armStretch]
  exact (readsAs_encode _).append (readsAs_between " => ::core::option::Option::Some(" "),"
    (by decide) (not_mem_toString (by decide) _) (by decide))

theorem shows_lookupArms (table : Sql.ParameterTable) :
    shows (table.map lookupArm) = ((table.map armStretch).map .code).map some := by
  induction table with
  | nil => rfl
  | cons parameter rest ih =>
    have hstart : startsCode (lookupArm parameter) = true := by
      simp only [lookupArm, String.append_assoc]
      exact startsCode_append (toList_encode _) (by decide)
    rw [List.map_cons, ← List.singleton_append, shows_append, ih,
      shows_singleton hstart (readsAs_lookupArm parameter)]
    rfl

/-- A parameter and its position in a table. -/
theorem readsAs_parameterEntry (parameter : Sql.Parameter) :
    ReadsAs (parameterEntry parameter)
      { shown := "(\"\", " ++ toString parameter.index ++ ")", literals := [parameter.name] } := by
  -- the quotes of the literal are shown between the bracket and the comma
  have hshown : "(\"\", " = "(" ++ ("\"\"" ++ ", ") := rfl
  have hentry : parameterEntry parameter =
      "(" ++ (encode parameter.name ++ (", " ++ toString parameter.index ++ ")")) := by
    simp only [parameterEntry, String.append_assoc]
  have hreads := (readsAs_plain "(" (by decide)).append
    ((readsAs_encode parameter.name).append
      (readsAs_between ", " ")" (by decide) (not_mem_toString (by decide) parameter.index)
        (by decide)))
  rw [← hentry] at hreads
  rw [hshown]
  simp only [append_def, literal, plain, String.append_assoc, List.append_nil,
    List.nil_append] at hreads ⊢
  exact hreads

theorem readsAs_entries (first : Sql.Parameter) (others : Sql.ParameterTable) :
    ReadsAs (", ".intercalate ((first :: others).map parameterEntry))
      { shown := ", ".intercalate ((first :: others).map fun parameter =>
          "(\"\", " ++ toString parameter.index ++ ")")
        literals := (first :: others).map Sql.Parameter.name } := by
  induction others generalizing first with
  | nil =>
    rw [List.map_singleton, List.map_singleton, List.map_singleton, String.intercalate_singleton,
      String.intercalate_singleton]
    exact readsAs_parameterEntry first
  | cons second others ih =>
    have hreads := ((readsAs_parameterEntry first).append
      (readsAs_plain ", " (by decide))).append (ih second)
    rw [List.map_cons, List.map_cons, List.map_cons, List.map_cons, String.intercalate_cons_cons,
      String.intercalate_cons_cons]
    exact hreads

theorem readsAs_table (table : Sql.ParameterTable) :
    ReadsAs ("&[" ++ ", ".intercalate (table.map parameterEntry) ++ "]") (tableStretch table) := by
  cases table with
  | nil =>
    exact readsAs_plain ("&[" ++ "" ++ "]") (by decide)
  | cons first others =>
    have hreads := ((readsAs_plain "&[" (by decide)).append
      (readsAs_entries first others)).append (readsAs_plain "]" (by decide))
    simp only [append_def, plain, List.nil_append, List.append_nil] at hreads
    exact hreads

/-! ### Queries -/

@[simp] theorem shows_sqlFunction (query : Query) :
    shows (sqlFunction query) =
      (functionCode "SQL with positional placeholders, ready to hand to the driver."
        "sql() -> &'static str" [literal query.sql]).map some := by
  rw [sqlFunction, shows_function _ (by decide) (by decide) (by decide), shows_literal]
  rfl

@[simp] theorem shows_rawSqlFunction (query : Query) :
    shows (rawSqlFunction query) =
      (functionCode "SQL as written, with named parameters."
        "raw_sql() -> &'static str" [literal query.rawSql]).map some := by
  rw [rawSqlFunction, shows_function _ (by decide) (by decide) (by decide), shows_literal]
  rfl

@[simp] theorem shows_paramsFunction (query : Query) :
    shows (paramsFunction query) =
      (functionCode "Parameter names and their 1-based positions, sorted by position."
        "params() -> &'static [(&'static str, usize)]"
        [tableStretch query.parameters]).map some := by
  have hstart : startsCode
      ("&[" ++ ", ".intercalate (query.parameters.map parameterEntry) ++ "]") = true := by
    rw [String.append_assoc]
    exact startsCode_append rfl (by decide)
  rw [paramsFunction, shows_function _ (by decide) (by decide) (by decide),
    shows_singleton hstart (readsAs_table _)]
  rfl

@[simp] theorem shows_paramIndexFunction (query : Query) :
    shows (paramIndexFunction query) = (lookupCode query.parameters).map some := by
  rw [paramIndexFunction_eq, lookupCode]
  split
  · rw [shows_function _ (by exact not_mem_toList_ofList (by decide))
      (by exact not_mem_toList_ofList (by decide)) (by exact not_mem_toList_ofList (by decide)),
      shows_plain _ (by decide) (by exact not_mem_toList_ofList (by decide))]
    rfl
  · rw [shows_function _ (by exact not_mem_toList_ofList (by decide))
      (by exact not_mem_toList_ofList (by decide)) (by exact not_mem_toList_ofList (by decide)),
      shows_block (by decide),
      shows_append, shows_lookupArms, shows_plain _ (by decide) (by decide),
      shows_plain _ (by decide) (by decide)]
    simp only [functionCode, List.map_append, List.append_assoc]
    rfl

section

variable {query : Query} (hname : ∀ c ∈ query.name.accessor.toList, isNameChar c = true)

include hname

theorem shows_typeItem :
    shows (typeItem query) =
      ((textLines ("`" ++ query.relativePath ++ "`")).map CodeLine.documentation
        ++ [codeLine "#[derive(Debug, Clone, Copy)]",
          codeLine ("pub struct " ++ query.name.accessor ++ ";")]).map some := by
  -- the name breaks no line, and so the head of the type is one
  have hline : '\n' ∉ ("pub struct " ++ query.name.accessor ++ ";").toList := by
    rw [not_mem_toList_append, not_mem_toList_append]
    exact ⟨⟨by decide, not_mem_of_name hname (by decide)⟩, by decide⟩
  rw [typeItem, shows_append, shows_append, shows_docComment, textLines_of_not_mem hline,
    shows_named hname rfl (by decide) (by decide) (by decide),
    shows_plain "#[derive(Debug, Clone, Copy)]" (by decide) (by decide),
    List.append_assoc, List.map_append]
  rfl

theorem shows_queryItems : (queryItems query).flatMap shows = (queryCode query).map some := by
  have hhead : '\n' ∉ ("impl " ++ query.name.accessor).toList :=
    not_mem_toList_append.mpr ⟨by decide, not_mem_of_name hname (by decide)⟩
  have himpl : shows ["impl " ++ query.name.accessor ++ " \x7b"] = _ :=
    shows_named hname rfl (by decide) (by decide) (by decide)
  simp [queryItems, functionsItem, shows_typeItem hname, shows_block hhead, himpl, queryCode]

end

/-! ### Catalogs -/

theorem shows_moduleItem {group : String} {queries : List Query} (hgroup : Text.IsAsciiName group)
    (hqueries : ∀ query ∈ queries, Text.IsAsciiName query.name.accessor) :
    shows (moduleItem group queries) = (moduleCode group queries).map some := by
  have hname := isNameChar_of_mem_moduleName hgroup
  have hhead : '\n' ∉ ("pub mod " ++ moduleName group).toList :=
    not_mem_toList_append.mpr ⟨by decide, not_mem_of_name hname (by decide)⟩
  have hbody : queries.flatMap (fun query => (queryItems query).flatMap shows) =
      (queries.flatMap queryCode).map some := by
    rw [List.map_flatMap]
    refine List.flatMap_congr fun query hquery => shows_queryItems fun c hc => ?_
    exact isNameChar_of_isAlphanum ((hqueries query hquery).2 c hc)
  rw [moduleItem, shows_block hhead, shows_named hname rfl (by decide) (by decide) (by decide),
    shows_separated, List.flatMap_assoc, hbody, moduleCode, List.map_append, List.map_append]
  rfl

@[simp] theorem shows_header (compiler : Sql.Compiler) :
    shows (header compiler) = (headerCode compiler).map some := by
  have hdialect : '"' ∉ compiler.dialect.name.toList := by
    cases compiler.dialect <;> exact not_mem_toList_ofList (by decide)
  have hpolicy : '"' ∉ compiler.policy.name.toList := by
    cases compiler.policy <;> exact not_mem_toList_ofList (by decide)
  have hquote : '"' ∉ ("// dialect: " ++ compiler.dialect.name ++ ", parameters: "
      ++ compiler.policy.name).toList := by
    simp only [not_mem_toList_append]
    exact ⟨⟨⟨not_mem_toList_ofList (by decide), hdialect⟩,
      not_mem_toList_ofList (by decide)⟩, hpolicy⟩
  -- two slashes do not start documentation
  have hstart : startsCode ("// dialect: " ++ compiler.dialect.name ++ ", parameters: "
      ++ compiler.policy.name) = true := by
    rw [startsCode, String.toList_append, String.toList_append, String.toList_append]
    rfl
  have hfirst := shows_plain "// Generated by sqlgen. Do not edit." (by decide)
    (not_mem_toList_ofList (by decide))
  have hlines : shows (header compiler) =
      shows ["// Generated by sqlgen. Do not edit."]
        ++ shows ["// dialect: " ++ compiler.dialect.name ++ ", parameters: "
          ++ compiler.policy.name] := by
    rw [← shows_append]
    rfl
  rw [hlines, hfirst, shows_plain _ hstart hquote]
  rfl

/-- The lines of the code of a catalog of ASCII names. -/
theorem codeLines_text (compiler : Sql.Compiler) {catalog : Catalog}
    (hgroups : ∀ entry ∈ catalog.groups, Text.IsAsciiName entry.1)
    (hqueries : ∀ query ∈ catalog.queries, Text.IsAsciiName query.name.accessor) :
    codeLines (text (catalogLines compiler catalog)) =
      (headerCode compiler
        ++ catalog.groups.flatMap fun entry => moduleCode entry.1 entry.2).map some := by
  rw [codeLines, map_ofList_splitOn_text, ← shows, catalogLines, shows_separated,
    List.flatMap_cons, shows_header, List.flatMap_map, List.map_append, List.map_flatMap]
  refine congrArg _ (List.flatMap_congr fun entry hentry => ?_)
  refine shows_moduleItem (hgroups entry hentry) fun query hquery => ?_
  exact hqueries query (List.mem_flatMap.mpr ⟨entry, hentry, hquery⟩)

/-- An ASCII letter, and then ASCII letters, digits and underscores. -/
def IsItemName (name : String) : Prop :=
  StartsWithLetter name ∧ ∀ c ∈ name.toList, isNameChar c = true

theorem isItemName_moduleName {group : String} (h : Text.IsAsciiName group)
    (hletter : StartsWithLetter group) : IsItemName (moduleName group) := by
  refine ⟨?_, isNameChar_of_mem_moduleName h⟩
  obtain ⟨c, rest, hgroup, hc⟩ := hletter
  have hhead := h.head?_snake
  rw [hgroup, List.head?_cons, Option.map_some] at hhead
  obtain ⟨letters, hsnake⟩ := List.head?_eq_some_iff.mp hhead
  have hsmall : c.toLower.isAlpha = true := by
    rw [Char.isAlpha_toLower_eq_isAlpha, hc]
  unfold moduleName
  dsimp only
  split
  · refine ⟨c.toLower, letters ++ ['_'], ?_, hsmall⟩
    rw [String.toList_append, hsnake]
    rfl
  · exact ⟨c.toLower, letters, hsnake, hsmall⟩

variable {files : Files.FileSystem} {root : String} {options : Options} {catalog : Catalog}

/-- The names of modules and types in the code of a collected catalog are ASCII identifiers. -/
theorem isItemName_of_collect (h : Catalog.collect files root options = .ok catalog)
    {entry : String × List Query} (hentry : entry ∈ catalog.groups) :
    IsItemName (moduleName entry.1) ∧ ∀ query ∈ entry.2, IsItemName query.name.accessor := by
  have hgrouped := Catalog.wellGrouped_of_collect h
  have hletters : ∀ query ∈ entry.2, query.name.WellFormed ∧
      StartsWithLetter query.name.group ∧ StartsWithLetter query.name.accessor := by
    intro query hquery
    have hmem : query ∈ catalog.queries := List.mem_flatMap.mpr ⟨entry, hentry, hquery⟩
    obtain ⟨path, hpath⟩ := Catalog.exists_ofPath_of_collect h hmem
    exact ⟨QueryName.wellFormed_of_ofPath hpath, QueryName.startsWithLetter_of_ofPath hpath⟩
  constructor
  · obtain ⟨query, hquery⟩ := List.exists_mem_of_ne_nil _ (hgrouped.inhabited entry hentry)
    obtain ⟨hformed, hgroup, -⟩ := hletters query hquery
    rw [← hgrouped.filed entry hentry query hquery]
    exact isItemName_moduleName hformed.group hgroup
  · intro query hquery
    obtain ⟨hformed, -, haccessor⟩ := hletters query hquery
    exact ⟨haccessor, fun c hc => isNameChar_of_isAlphanum (hformed.accessor.2 c hc)⟩

/-- **Texts stay where they belong.**  Take any files from which a catalog has been collected and
code generated, whatever their paths are and whatever stands in them.  But for empty lines, the
lines of the code are exactly those of `headerCode` and `moduleCode`: the paths stand in lines of
documentation, the SQL and the names of parameters in literals that end in the line in which they
start, and all else is fixed but for positions and for the names of modules and types, which are
ASCII identifiers. -/
theorem codeLines_generate {code : String}
    (hcollect : Catalog.collect files root options = .ok catalog)
    (hcode : generate options.compiler catalog = .ok code) :
    codeLines code =
        (headerCode options.compiler
          ++ catalog.groups.flatMap fun entry => moduleCode entry.1 entry.2).map some ∧
      ∀ entry ∈ catalog.groups, IsItemName (moduleName entry.1) ∧
        ∀ query ∈ entry.2, IsItemName query.name.accessor := by
  obtain ⟨-, rfl⟩ := generate_eq_ok_iff.mp hcode
  refine ⟨codeLines_text _ (isAsciiName_of_collect hcollect) fun query hquery => ?_,
    fun entry hentry => isItemName_of_collect hcollect hentry⟩
  exact (Catalog.wellFormed_of_collect hcollect query hquery).accessor

/-- A query file whose path and content look like code. -/
def disguisedTree : Files.FileSystem :=
  Files.FileSystem.empty.put (Utf8.encode "/q/users/find\n\x7d pub mod `x` \"y\".sql")
    (Utf8.encode "SELECT '\", 1)', :id\n\x7d")

/-- The query of this file. -/
def disguisedQuery : Query where
  path := "/q/users/find\n\x7d pub mod `x` \"y\".sql"
  relativePath := "users/find\n\x7d pub mod `x` \"y\".sql"
  name := { group := "Users", accessor := "FindPubModXY", key := "UsersFindPubModXY" }
  rawSql := "SELECT '\", 1)', :id\n\x7d"
  sql := "SELECT '\", 1)', $1\n\x7d"
  parameters := [{ name := "id", index := 1 }]

theorem codeLines_disguised_tree :
    ∃ catalog code, Catalog.collect disguisedTree "/q" Catalog.plainOptions = .ok catalog ∧
      generate Catalog.plainOptions.compiler catalog = .ok code ∧
      codeLines code =
        ([codeLine "// Generated by sqlgen. Do not edit.",
          codeLine "// dialect: dollar, parameters: collapse",
          codeLine "pub mod users \x7b",
          .documentation "`users/find",
          .documentation "\x7d pub mod `x` \"y\".sql`",
          codeLine "#[derive(Debug, Clone, Copy)]",
          codeLine "pub struct FindPubModXY;",
          codeLine "impl FindPubModXY \x7b",
          .documentation "SQL with positional placeholders, ready to hand to the driver.",
          codeLine "pub fn sql() -> &'static str \x7b",
          .code (literal "SELECT '\", 1)', $1\n\x7d"),
          codeLine "\x7d",
          .documentation "SQL as written, with named parameters.",
          codeLine "pub fn raw_sql() -> &'static str \x7b",
          .code (literal "SELECT '\", 1)', :id\n\x7d"),
          codeLine "\x7d",
          .documentation "Parameter names and their 1-based positions, sorted by position.",
          codeLine "pub fn params() -> &'static [(&'static str, usize)] \x7b",
          .code { shown := "&[(\"\", 1)]", literals := ["id"] },
          codeLine "\x7d",
          .documentation "Position to bind `name` at, or `None` if the query does not use it.",
          codeLine "pub fn param_index(name: &str) -> ::core::option::Option<usize> \x7b",
          codeLine "match name \x7b",
          .code { shown := "\"\" => ::core::option::Option::Some(1),", literals := ["id"] },
          codeLine "_ => ::core::option::Option::None,",
          codeLine "\x7d",
          codeLine "\x7d",
          codeLine "\x7d",
          codeLine "\x7d"] : List CodeLine).map some := by
  have hrun : (Catalog.collect disguisedTree "/q" Catalog.plainOptions).map Catalog.groups =
      .ok [("Users", [disguisedQuery])] := by
    decide +kernel
  obtain ⟨catalog, hcatalog, hgroups⟩ := Catalog.exists_of_map_eq_ok hrun
  have hdistinct : (catalog.groups.map fun entry => moduleName entry.1).Nodup := by
    rw [hgroups]
    exact List.nodup_singleton _
  have hcode := generate_eq_ok_iff.mpr
    ⟨hdistinct, (rfl : text (catalogLines Catalog.plainOptions.compiler catalog) = _)⟩
  have hlines := (codeLines_generate hcatalog hcode).1
  rw [hgroups] at hlines
  refine ⟨catalog, _, hcatalog, hcode, hlines.trans (congrArg _ ?_)⟩
  decide +kernel

end NamedSql.Code
