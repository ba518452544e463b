/-
Generated code read back.

The decoder cuts the code into lines, asks each what it says, and gathers the answers from
the last line to the first: values into functions, functions into queries, queries into
modules.

* `decode` — the modules of a piece of code;
* `items_queryItems`, `items_moduleItem` — what the lines of a query and of a module say;
* `decode_text` — the lines of a catalog give its modules and queries;
* `decode_generate` — so does the code of every catalog.
-/
import NamedSql.Proofs.CatalogLines
import NamedSql.Proofs.CodeLines
import NamedSql.Proofs.Words

namespace NamedSql.Code

/-- What code tells about a query. -/
structure QueryRecord where
  accessor : String
  sql : String
  rawSql : String
  parameters : Sql.ParameterTable
  deriving DecidableEq, Repr

/-- What code tells about a namespace. -/
structure ModuleRecord where
  name : String
  queries : List QueryRecord
  deriving DecidableEq, Repr

/-- What the code of a query tells. -/
def QueryRecord.ofQuery (query : Query) : QueryRecord :=
  { accessor := query.name.accessor
    sql := query.sql
    rawSql := query.rawSql
    parameters := query.parameters }

/-- What the code of a namespace tells. -/
def ModuleRecord.ofGroup (entry : String × List Query) : ModuleRecord :=
  { name := moduleName entry.1, queries := entry.2.map QueryRecord.ofQuery }

/-! ### The decoder -/

/-- The query of a type, if its functions give all there is to know. -/
def QueryRecord.ofFunctions? (accessor : String) (functions : List (String × Value)) :
    Option QueryRecord :=
  match functions.lookup "sql", functions.lookup "raw_sql", functions.lookup "params" with
  | some (.text sql), some (.text rawSql), some (.table parameters) =>
    some { accessor, sql, rawSql, parameters }
  | _, _, _ => none

/-- What is gathered from the lines behind a line. -/
structure Gathered where
  /-- The value of the function that is open. -/
  value : Option Value
  /-- The functions of the type that is open. -/
  functions : List (String × Value)
  /-- The queries of the module that is open. -/
  queries : List QueryRecord
  modules : List ModuleRecord

/-- Nothing open but a module. -/
def Gathered.between (queries : List QueryRecord) (modules : List ModuleRecord) : Gathered :=
  { value := none, functions := [], queries, modules }

/-- What is gathered with one more line in front. -/
def Gathered.add (item : Item) (behind : Gathered) : Gathered :=
  match item with
  | .value value => { behind with value := some value }
  | .function name =>
    { behind with
      value := none
      functions := (behind.value.map fun value => (name, value)).toList ++ behind.functions }
  | .type name =>
    { behind with
      functions := []
      queries := (QueryRecord.ofFunctions? name behind.functions).toList ++ behind.queries }
  | .module name =>
    { behind with queries := [], modules := { name, queries := behind.queries } :: behind.modules }

/-- The modules of a piece of code, each with its queries. -/
def decode (code : String) : List ModuleRecord :=
  let lines := (code.toList.splitOn '\n').map String.ofList
  ((lines.filterMap Item.ofLine?).foldr Gathered.add (.between [] [])).modules

/-! ### What layouts say -/

/-- What lines say. -/
def items (lines : Lines) : List Item :=
  lines.filterMap Item.ofLine?

@[simp]
theorem items_append (lines more : Lines) : items (lines ++ more) = items lines ++ items more :=
  List.filterMap_append

@[simp] theorem items_nil : items [] = [] := rfl

@[simp] theorem items_cons (line : String) (rest : Lines) :
    items (line :: rest) = (Item.ofLine? line).toList ++ items rest := by
  rw [items, items, List.filterMap_cons]
  cases Item.ofLine? line <;> rfl

theorem overlooks_ofLine? : Overlooks Item.ofLine? where
  empty := rfl
  indentation line := by
    rw [Item.ofLine?, String.toList_append]
    rfl

@[simp] theorem items_separated (pieces : List Lines) :
    items (separated pieces) = pieces.flatMap items :=
  overlooks_ofLine?.filterMap_separated pieces

/-- A block says what its head and its body say. -/
theorem items_block {head : String} (h : '\n' ∉ head.toList) (body : Lines) :
    items (block head body) = (Item.ofLine? (head ++ " \x7b")).toList ++ items body := by
  have hclosing : Item.ofLine? "\x7d" = none := rfl
  rw [items, overlooks_ofLine?.filterMap_block h, ← items, ← items, ← items]
  simp [hclosing]

@[simp] theorem items_docComment (s : String) : items (docComment s) = [] := by
  rw [items, docComment_eq, List.filterMap_map, List.filterMap_eq_nil_iff]
  intro line _
  rw [Function.comp_apply]
  generalize (if line.isEmpty then "" else " " ++ line) = behind
  have hline : ("///" ++ behind).toList = '/' :: '/' :: '/' :: behind.toList := by
    rw [String.toList_append]
    rfl
  exact ofLine?_eq_none hline (by decide)

theorem items_function (doc : String) {signature : String} (h : '\n' ∉ signature.toList)
    (body : Lines) :
    items (function doc signature body) =
      (Item.ofLine? ("pub fn " ++ signature ++ " \x7b")).toList ++ items body := by
  have hhead : '\n' ∉ ("pub fn " ++ signature).toList :=
    not_mem_toList_append.mpr ⟨by decide, h⟩
  simp [function, items_block hhead]

/-! ### What a query says -/

theorem isNameChar_of_isAlphanum {c : Char} (h : c.isAlphanum = true) : isNameChar c = true := by
  rw [isNameChar, h, Bool.true_or]

/-- What the lines of a query say. -/
def said (query : Query) : List Item :=
  [.type query.name.accessor,
    .function "sql", .value (.text query.sql),
    .function "raw_sql", .value (.text query.rawSql),
    .function "params", .value (.table query.parameters),
    .function "param_index"]

@[simp] theorem items_lookupArm (table : Sql.ParameterTable) :
    items (table.map lookupArm) = [] := by
  rw [items, List.filterMap_map, List.filterMap_eq_nil_iff]
  intro parameter _
  -- an arm starts with a literal as a value does, but the literal is not the whole line
  have hbehind : " => " ++ (optionType ++ ("::Some(" ++ (toString parameter.index ++ "),"))) ≠ "" :=
    fun hempty => absurd (String.append_eq_empty_iff.mp hempty).1 (by decide)
  rw [Function.comp_apply, lookupArm, String.append_assoc, String.append_assoc,
    String.append_assoc, String.append_assoc, ofLine?_literal_append, if_neg hbehind]

@[simp] theorem items_paramIndexFunction (query : Query) :
    items (paramIndexFunction query) = [.function "param_index"] := by
  rw [paramIndexFunction_eq]
  split
  · rw [items_function _ (by exact not_mem_toList_ofList (by decide))]
    rfl
  · rw [items_function _ (by exact not_mem_toList_ofList (by decide)), items_block (by decide),
      items_append, items_lookupArm]
    rfl

theorem items_typeItem {query : Query}
    (h : ∀ c ∈ query.name.accessor.toList, isNameChar c = true) :
    items (typeItem query) = [.type query.name.accessor] := by
  have hderive : Item.ofLine? "#[derive(Debug, Clone, Copy)]" = none := by decide
  -- the head of a type is cut into lines too, but a name cannot break it
  have hline : '\n' ∉ ("pub struct " ++ query.name.accessor ++ ";").toList := by
    rw [not_mem_toList_append, not_mem_toList_append]
    exact ⟨⟨by decide, not_mem_of_name h (by decide)⟩, by decide⟩
  simp [typeItem, hderive, textLines_of_not_mem hline, ofLine?_type h]

theorem items_functionsItem {query : Query}
    (h : ∀ c ∈ query.name.accessor.toList, isNameChar c = true) :
    items (functionsItem query) =
      [.function "sql", .value (.text query.sql),
        .function "raw_sql", .value (.text query.rawSql),
        .function "params", .value (.table query.parameters),
        .function "param_index"] := by
  have hhead : '\n' ∉ ("impl " ++ query.name.accessor).toList :=
    not_mem_toList_append.mpr ⟨by decide, not_mem_of_name h (by decide)⟩
  have hopening : ("impl " ++ query.name.accessor ++ " \x7b").toList =
      'i' :: ("mpl ".toList ++ query.name.accessor.toList ++ " \x7b".toList) := by
    rw [String.toList_append, String.toList_append]
    rfl
  have himpl := ofLine?_eq_none hopening (by decide)
  have hsql : items (sqlFunction query) = [.function "sql", .value (.text query.sql)] := by
    rw [sqlFunction, items_function _ (by decide), items_cons, ofLine?_literal]
    rfl
  have hraw : items (rawSqlFunction query) =
      [.function "raw_sql", .value (.text query.rawSql)] := by
    rw [rawSqlFunction, items_function _ (by decide), items_cons, ofLine?_literal]
    rfl
  have hparams : items (paramsFunction query) =
      [.function "params", .value (.table query.parameters)] := by
    rw [paramsFunction, items_function _ (by decide), items_cons, ofLine?_table]
    rfl
  simp [functionsItem, items_block hhead, himpl, hsql, hraw, hparams]

theorem items_queryItems {query : Query} (h : Text.IsAsciiName query.name.accessor) :
    (queryItems query).flatMap items = said query := by
  have hname : ∀ c ∈ query.name.accessor.toList, isNameChar c = true := fun c hc =>
    isNameChar_of_isAlphanum (h.2 c hc)
  simp [queryItems, items_typeItem hname, items_functionsItem hname, said]

/-! ### What a catalog says -/

theorem isNameChar_of_mem_moduleName {group : String} (h : Text.IsAsciiName group) :
    ∀ c ∈ (moduleName group).toList, isNameChar c = true := by
  have hsnake : ∀ c ∈ (Text.snake group).toList, isNameChar c = true := by
    intro c hc
    rcases h.of_mem_snake hc with hsmall | rfl
    · refine isNameChar_of_isAlphanum ?_
      rw [Bool.or_eq_true] at hsmall
      rw [Char.isAlphanum, Char.isAlpha, Bool.or_eq_true, Bool.or_eq_true]
      exact hsmall.imp_left .inr
    · decide
  unfold moduleName
  dsimp only
  split
  · intro c hc
    rw [String.toList_append] at hc
    rcases List.mem_append.mp hc with hc | hc
    · exact hsnake c hc
    · rw [List.mem_singleton.mp hc]
      decide
  · exact hsnake

theorem items_moduleItem {group : String} {queries : List Query} (hgroup : Text.IsAsciiName group)
    (hqueries : ∀ query ∈ queries, Text.IsAsciiName query.name.accessor) :
    items (moduleItem group queries) = .module (moduleName group) :: queries.flatMap said := by
  have hname := isNameChar_of_mem_moduleName hgroup
  have hhead : '\n' ∉ ("pub mod " ++ moduleName group).toList :=
    not_mem_toList_append.mpr ⟨by decide, not_mem_of_name hname (by decide)⟩
  have hsaid : queries.flatMap (fun query => (queryItems query).flatMap items) =
      queries.flatMap said :=
    List.flatMap_congr fun query hquery => items_queryItems (hqueries query hquery)
  rw [moduleItem, items_block hhead, ofLine?_module hname, items_separated, List.flatMap_assoc,
    hsaid]
  rfl

/-- Both lines in front of the modules are comments. -/
@[simp] theorem items_header (compiler : Sql.Compiler) : items (header compiler) = [] := by
  have hcomment {line : String} (rest : List Char) (hline : line.toList = '/' :: rest) :
      Item.ofLine? line = none :=
    ofLine?_eq_none hline (by decide)
  rw [header, items, List.filterMap_cons_none (hcomment _ String.toList_ofList),
    List.filterMap_cons_none, List.filterMap_nil]
  refine hcomment ("/ dialect: ".toList ++ compiler.dialect.name.toList
    ++ ", parameters: ".toList ++ compiler.policy.name.toList) ?_
  rw [String.toList_append, String.toList_append, String.toList_append]
  rfl

/-! ### Gathering -/

theorem foldr_said (query : Query) (queries : List QueryRecord) (modules : List ModuleRecord) :
    (said query).foldr Gathered.add (.between queries modules) =
      .between (QueryRecord.ofQuery query :: queries) modules :=
  rfl

theorem foldr_queries (queries : List Query) (modules : List ModuleRecord) :
    (queries.flatMap said).foldr Gathered.add (.between [] modules) =
      .between (queries.map QueryRecord.ofQuery) modules := by
  -- nothing is open between two queries, so the gathered state is `between` at every step
  induction queries with
  | nil => rfl
  | cons query rest ih => rw [List.flatMap_cons, List.foldr_append, ih, foldr_said, List.map_cons]

theorem foldr_groups (groups : List (String × List Query)) :
    (groups.flatMap fun entry => .module (moduleName entry.1) :: entry.2.flatMap said).foldr
        Gathered.add (.between [] []) =
      .between [] (groups.map ModuleRecord.ofGroup) := by
  induction groups with
  | nil => rfl
  | cons entry rest ih =>
    rw [List.flatMap_cons, List.foldr_append, ih, List.foldr_cons, foldr_queries, List.map_cons]
    rfl

/-! ### The code of a catalog -/

theorem items_catalogLines (compiler : Sql.Compiler) {catalog : Catalog}
    (hgroups : ∀ entry ∈ catalog.groups, Text.IsAsciiName entry.1)
    (hqueries : ∀ query ∈ catalog.queries, Text.IsAsciiName query.name.accessor) :
    items (catalogLines compiler catalog) =
      catalog.groups.flatMap fun entry =>
        .module (moduleName entry.1) :: entry.2.flatMap said := by
  simp only [catalogLines, items_separated, List.flatMap_cons, items_header, List.nil_append,
    List.flatMap_map]
  refine List.flatMap_congr fun entry hentry => items_moduleItem (hgroups entry hentry) ?_
  exact fun query hquery => hqueries query (List.mem_flatMap.mpr ⟨entry, hentry, hquery⟩)

/-- The lines of a catalog of ASCII names are read back, whatever texts and tables it holds. -/
theorem decode_text (compiler : Sql.Compiler) {catalog : Catalog}
    (hgroups : ∀ entry ∈ catalog.groups, Text.IsAsciiName entry.1)
    (hqueries : ∀ query ∈ catalog.queries, Text.IsAsciiName query.name.accessor) :
    decode (text (catalogLines compiler catalog)) = catalog.groups.map ModuleRecord.ofGroup := by
  have hitems := items_catalogLines compiler hgroups hqueries
  rw [items] at hitems
  rw [decode, map_ofList_splitOn_text, hitems, foldr_groups]
  rfl

theorem map_name_ofGroup (groups : List (String × List Query)) :
    (groups.map ModuleRecord.ofGroup).map ModuleRecord.name =
      groups.map fun entry => moduleName entry.1 := by
  simp only [List.map_map, Function.comp_def, ModuleRecord.ofGroup]

/-- A capital letter and then letters and digits, all of them ASCII. -/
def IsTypeName (name : String) : Prop :=
  (name.toList.head?.any Char.isUpper && name.toList.all Char.isAlphanum) = true

instance : DecidablePred IsTypeName := fun name =>
  inferInstanceAs (Decidable ((name.toList.head?.any Char.isUpper &&
    name.toList.all Char.isAlphanum) = true))

theorem IsTypeName.isAsciiName {name : String} (h : IsTypeName name) : Text.IsAsciiName name := by
  rw [IsTypeName, Bool.and_eq_true, List.all_eq_true] at h
  refine ⟨?_, h.2⟩
  rintro rfl
  exact absurd h.1 (by decide)

/-- **Decoding generated code.**  Take any catalog whose namespaces and accessors are type
names and whose namespaces have modules of their own.  Then it has code, and `decode` reads
from that code the modules in order and, for each of them, the queries in order, with the
SQL, the raw SQL and the parameter table of each, whatever texts these are. -/
theorem decode_generate (compiler : Sql.Compiler) {catalog : Catalog}
    (hgroups : ∀ entry ∈ catalog.groups, IsTypeName entry.1)
    (haccessors : ∀ query ∈ catalog.queries, IsTypeName query.name.accessor)
    (hmodules : (catalog.groups.map fun entry => moduleName entry.1).Nodup) :
    ∃ code, generate compiler catalog = .ok code ∧
      decode code = catalog.groups.map ModuleRecord.ofGroup := by
  refine ⟨text (catalogLines compiler catalog), generate_eq_ok_iff.mpr ⟨hmodules, rfl⟩, ?_⟩
  exact decode_text compiler (fun entry hentry => (hgroups entry hentry).isAsciiName)
    fun query hquery => (haccessors query hquery).isAsciiName

/-- A query whose texts and names look like code, break lines and do not print. -/
def awkwardQuery : Query where
  path := "/q/users/find\nby id.sql"
  relativePath := "users/find\r\npub mod id \x7b.sql"
  name := { group := "Users", accessor := "FindById", key := "UsersFindById" }
  rawSql := "SELECT \"pub struct X;\",\n'\\' -- é\x00\u0301\r\n&[]"
  sql := ""
  parameters :=
    [{ name := "id", index := 12 }, { name := "\", 1), (\"", index := 0 },
      { name := "id", index := 7 }]

/-- Two such queries, and a namespace whose module is a keyword. -/
def awkwardCatalog : Catalog :=
  { groups := [("Users", [awkwardQuery, awkwardQuery]), ("Type", [])] }

theorem decode_generate_awkward :
    ∃ code, generate { dialect := .question, policy := .perOccurrence } awkwardCatalog = .ok code ∧
      decode code =
        [{ name := "users", queries := List.replicate 2 (QueryRecord.ofQuery awkwardQuery) },
          { name := "type_", queries := [] }] := by
  have hgroups : ∀ entry ∈ awkwardCatalog.groups, IsTypeName entry.1 := by decide
  have haccessors : ∀ query ∈ awkwardCatalog.queries, IsTypeName query.name.accessor := by decide
  have hmodules : (awkwardCatalog.groups.map fun entry => moduleName entry.1).Nodup := by
    decide +kernel
  obtain ⟨code, hcode, hdecode⟩ := decode_generate _ hgroups haccessors hmodules
  refine ⟨code, hcode, hdecode.trans ?_⟩
  decide +kernel

end NamedSql.Code
