/-
The code of a catalog: one Rust module for each namespace, and in it one type for each
query, with functions for the SQL and its parameters.

* `moduleName` — the module of a namespace;
* `queryItems` — the items of a query;
* `generate` — the code of a catalog, or the module name that two namespaces share.
-/
import NamedSql.Code.Layout
import NamedSql.Query.Catalog

namespace NamedSql.Code

/-- The words that Rust keeps for itself. -/
def keywords : List String :=
  ["abstract", "as", "async", "await", "become", "box", "break", "const", "continue", "crate",
    "do", "dyn", "else", "enum", "extern", "false", "final", "fn", "for", "gen", "if", "impl",
    "in", "let", "loop", "macro", "match", "mod", "move", "mut", "override", "priv", "pub",
    "ref", "return", "self", "static", "struct", "super", "trait", "true", "try", "type",
    "typeof", "unsafe", "unsized", "use", "virtual", "where", "while", "yield"]

/-- The module of a namespace: its words in small letters, with an underscore behind them
if they spell a keyword. -/
def moduleName (group : String) : String :=
  let name := Text.snake group
  if name ∈ keywords then name ++ "_" else name

/-- A public function without a receiver. -/
def function (doc signature : String) (body : Lines) : Lines :=
  docComment doc ++ block ("pub fn " ++ signature) body

/-- The optional type. It is written in full, because a query may be named `Option`. -/
def optionType : String :=
  "::core::option::Option"

/-- The SQL with placeholders. -/
def sqlFunction (query : Query) : Lines :=
  function "SQL with positional placeholders, ready to hand to the driver."
    "sql() -> &'static str" [Literal.encode query.sql]

/-- The SQL as written. -/
def rawSqlFunction (query : Query) : Lines :=
  function "SQL as written, with named parameters."
    "raw_sql() -> &'static str" [Literal.encode query.rawSql]

/-- A parameter and its position. -/
def parameterEntry (parameter : Sql.Parameter) : String :=
  "(" ++ Literal.encode parameter.name ++ ", " ++ toString parameter.index ++ ")"

/-- The parameter table. -/
def paramsFunction (query : Query) : Lines :=
  function "Parameter names and their 1-based positions, sorted by position."
    "params() -> &'static [(&'static str, usize)]"
    ["&[" ++ ", ".intercalate (query.parameters.map parameterEntry) ++ "]"]

/-- The parameters of a table whose names have not come before. -/
def firstOccurrences (seen : List String) : Sql.ParameterTable → Sql.ParameterTable
  | [] => []
  | parameter :: rest =>
    if parameter.name ∈ seen then firstOccurrences seen rest
    else parameter :: firstOccurrences (parameter.name :: seen) rest

/-- The arm that finds a parameter. -/
def lookupArm (parameter : Sql.Parameter) : String :=
  Literal.encode parameter.name ++ " => " ++ optionType ++ "::Some("
    ++ toString parameter.index ++ "),"

/-- The look-up of a parameter by name: the first position of the name. -/
def paramIndexFunction (query : Query) : Lines :=
  let doc := "Position to bind `name` at, or `None` if the query does not use it."
  let signature (argument : String) := s!"param_index({argument}: &str) -> {optionType}<usize>"
  let nothing := optionType ++ "::None"
  if query.parameters.isEmpty then function doc (signature "_name") [nothing]
  else
    let arms := (firstOccurrences [] query.parameters).map lookupArm
    function doc (signature "name") (block "match name" (arms ++ [s!"_ => {nothing},"]))

/-- The type of a query. -/
def typeItem (query : Query) : Lines :=
  docComment ("`" ++ query.relativePath ++ "`") ++ ["#[derive(Debug, Clone, Copy)]"]
    ++ textLines ("pub struct " ++ query.name.accessor ++ ";")

/-- The functions of a query. -/
def functionsItem (query : Query) : Lines :=
  block ("impl " ++ query.name.accessor)
    (separated
      [sqlFunction query, rawSqlFunction query, paramsFunction query, paramIndexFunction query])

/-- The items of a query. -/
def queryItems (query : Query) : List Lines :=
  [typeItem query, functionsItem query]

/-- The module of a namespace. -/
def moduleItem (group : String) (queries : List Query) : Lines :=
  block ("pub mod " ++ moduleName group) (separated (queries.flatMap queryItems))

/-- What the code says about itself. -/
def header (compiler : Sql.Compiler) : Lines :=
  ["// Generated by sqlgen. Do not edit.",
    s!"// dialect: {compiler.dialect.name}, parameters: {compiler.policy.name}"]

/-- Two namespaces with one module name. -/
structure ModuleClash where
  moduleName : String
  deriving DecidableEq, Repr

/-- The first name that repeats an earlier one. -/
def firstRepeated? (seen : List String) : List String → Option String
  | [] => none
  | name :: rest => if name ∈ seen then some name else firstRepeated? (name :: seen) rest

/-- The code of a catalog. Modules are known by their names, so no two namespaces may
share one. -/
def generate (compiler : Sql.Compiler) (catalog : Catalog) : Except ModuleClash String :=
  match firstRepeated? [] (catalog.groups.map fun entry => moduleName entry.1) with
  | some name => .error { moduleName := name }
  | none =>
    .ok (text (separated
      (header compiler :: catalog.groups.map fun entry => moduleItem entry.1 entry.2)))

end NamedSql.Code
