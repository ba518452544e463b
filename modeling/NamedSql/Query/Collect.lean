/-
Collecting a catalog: finding query files, reading and compiling them in order, and
grouping them. The first problem ends the run; there is no partial catalog.
-/
import NamedSql.Query.Catalog
import NamedSql.Query.Discover

namespace NamedSql

/-- What catalogs are made with. -/
structure Options where
  dialect : Sql.Dialect
  /-- The numbering policy, if not the one that the dialect expects. -/
  policy : Option Sql.NumberingPolicy
  /-- The extension of query files. -/
  suffix : String
  deriving DecidableEq, Repr

/-- The compiler that options ask for. -/
def Options.compiler (options : Options) : Sql.Compiler :=
  Sql.Compiler.of options.dialect options.policy

/-- Why there is no catalog. -/
inductive CollectError where
  | discover (error : DiscoverError)
  | unreadable (path : String) (cause : Files.FileError)
  | malformed (query : MalformedQuery)
  | duplicate (error : DuplicateAccessor)
  deriving DecidableEq, Repr

/-- The message of a collection error. -/
def CollectError.message : CollectError → String
  | .discover error => error.message
  | .unreadable path cause => s!"cannot read {path}: {cause.message}"
  | .malformed query => query.report
  | .duplicate error => error.message

/-- The text that a query file holds. -/
def Discovered.text (discovered : Discovered) : Except Files.FileError String :=
  match discovered.content with
  | .error cause => .error cause
  | .ok content =>
    match Utf8.decode? content with
    | some text => .ok text
    | none => .error .invalidText

/-- The query of a file. -/
def Discovered.query (compiler : Sql.Compiler) (discovered : Discovered) :
    Except CollectError Query :=
  match discovered.text with
  | .error cause => .error (.unreadable discovered.file.path cause)
  | .ok rawSql =>
    match Query.ofSource compiler discovered.file rawSql with
    | .ok query => .ok query
    | .error query => .error (.malformed query)

namespace Catalog

/-- Add the queries of files to a catalog. -/
def addFiles (compiler : Sql.Compiler) (catalog : Catalog) :
    List Discovered → Except CollectError Catalog
  | [] => .ok catalog
  | discovered :: rest =>
    match discovered.query compiler with
    | .error error => .error error
    | .ok query =>
      match catalog.insert query with
      | .error error => .error (.duplicate error)
      | .ok catalog => addFiles compiler catalog rest

/-- The catalog of the query files of an opened root. -/
def collectOpened (opened : Except DiscoverError SearchRoot) (options : Options) :
    Except CollectError Catalog :=
  match discoverOpened opened options.suffix with
  | .error error => .error (.discover error)
  | .ok discovered => addFiles options.compiler empty discovered

/-- The catalog of the query files below a root. -/
def collect (files : Files.FileSystem) (root : String) (options : Options) :
    Except CollectError Catalog :=
  collectOpened (openRoot files root) options

end Catalog

end NamedSql
