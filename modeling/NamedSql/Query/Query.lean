/-
Queries: a named file and its compiled content, or the report on a content that does not lex.

* `Query.ofSource` — the query of a file, unless its content is malformed;
* `MalformedQuery.report` — the report, which shows where the content is malformed.
-/
import NamedSql.Query.Name
import NamedSql.Report
import NamedSql.Sql.Compile

namespace NamedSql

/-- A query file: where it lies and what it is called. -/
structure QueryFile where
  /-- The canonical path. -/
  path : String
  /-- The path below the root. -/
  relativePath : String
  name : QueryName
  deriving DecidableEq, Repr

/-- A query file with its content, as written and compiled. -/
structure Query extends QueryFile where
  rawSql : String
  sql : String
  parameters : Sql.ParameterTable
  deriving DecidableEq, Repr

/-- The content of a query file with a region that is never closed. -/
structure MalformedQuery where
  /-- The path below the root. -/
  relativePath : String
  source : String
  error : Sql.ScanError
  deriving DecidableEq, Repr

/-- The report, with a label at the opening delimiter. -/
def MalformedQuery.report (query : MalformedQuery) : String :=
  Report.render query.relativePath query.source
    { message := query.error.message
      offset := query.error.span.offset
      label := s!"this {query.error.what.description} is never closed" }

/-- The extension of query files, unless another is asked for. -/
def Query.defaultSuffix : String :=
  "sql"

/-- The query of a file with a given content. -/
def Query.ofSource (compiler : Sql.Compiler) (file : QueryFile) (rawSql : String) :
    Except MalformedQuery Query :=
  match compiler.compile rawSql with
  | .ok compiled =>
    .ok { file with rawSql, sql := compiled.sql, parameters := compiled.parameters }
  | .error error => .error { relativePath := file.relativePath, source := rawSql, error }

/-- The first position of a parameter name. -/
def Query.indexOf? (query : Query) (name : String) : Option Nat :=
  query.parameters.indexOf? name

end NamedSql
