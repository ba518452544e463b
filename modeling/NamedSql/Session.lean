/-
Sessions: working on one file system, with the last catalog and the last code at hand.

A step that fails leaves both as they were, and the files as far as it had come with them.
-/
import NamedSql.Code.Accessors
import NamedSql.Output.Sink
import NamedSql.Query.Collect

namespace NamedSql

/-- Files, the last catalog and the last code. -/
structure Session where
  files : Files.FileSystem
  catalog : Catalog
  code : String

namespace Session

/-- A session that has done nothing yet. -/
def start (files : Files.FileSystem) : Session :=
  { files, catalog := Catalog.empty, code := "" }

/-- Collect a catalog and keep it. -/
def collect (session : Session) (root : String) (options : Options) :
    Except CollectError Catalog × Session :=
  match Catalog.collect session.files root options with
  | .ok catalog => (.ok catalog, { session with catalog })
  | .error error => (.error error, session)

/-- Generate the code of the last catalog and keep it. -/
def generate (session : Session) (compiler : Sql.Compiler) :
    Except Code.ModuleClash String × Session :=
  match Code.generate compiler session.catalog with
  | .ok code => (.ok code, { session with code })
  | .error error => (.error error, session)

/-- Write a text, or else the last code, to the sink of an output option. -/
def deliver (session : Session) (out permissions : String) (text : Option String) :
    Except Output.OutputError Output.Sink × Session :=
  match Output.Sink.ofOptions out permissions with
  | .error error => (.error error, session)
  | .ok sink =>
    match sink.deliver (text.getD session.code) (.start session.files) with
    | .ok _ world => (.ok sink, { session with files := world.files })
    | .error error world => (.error error, { session with files := world.files })

/-- The first query with a key in the last catalog. -/
def queryOfKey? (session : Session) (key : String) : Option Query :=
  session.catalog.queries.find? fun query => query.name.key = key

end Session

end NamedSql
