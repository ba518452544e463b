/-
A run of the program: collect a catalog, generate its code and write it once.

Collecting and generating change nothing.  The output is opened last, and only once it is open
can a run leave something behind when it fails.

* `RunError` — why a run fails;
* `Invocation.plan` — all that comes before the output is opened;
* `Invocation.perform` — the steps of a run, one after the other;
* `run` — what a run prints, leaves behind and reports to its caller.
-/
import NamedSql.CommandLine.Color
import NamedSql.Code.Accessors
import NamedSql.Output.Sink
import NamedSql.Query.Collect

namespace NamedSql.CommandLine

/-- Why a run fails. -/
inductive RunError where
  | unsupportedDialect (error : Sql.UnsupportedDialect)
  | collect (error : CollectError)
  /-- Two namespaces have one module name. -/
  | clash (error : Code.ModuleClash)
  | output (error : Output.OutputError)
  deriving DecidableEq, Repr

/-- The message of a failed run. -/
def RunError.message : RunError → String
  | .unsupportedDialect error => error.message
  | .collect error => error.message
  | .clash error => s!"the module {error.moduleName} is defined twice"
  | .output error => error.message

/-- The word in front of a message, in red where colors show. -/
def errorLabel (colored : Bool) : String :=
  if colored then Color.paintRed "error:" else "error:"

/-- What a failed run prints on standard error: a source report as it is, and other
messages behind a label. -/
def RunError.printed (colored : Bool) : RunError → String
  | .collect (.malformed query) => query.report
  | error => errorLabel colored ++ " " ++ error.message ++ "\n"

/-- The status of a failed run. -/
def RunError.status : RunError → Nat
  | .clash _ => 101
  | _ => 1

/-- The options of an invocation. -/
def Invocation.options (invocation : Invocation) : Except Sql.UnsupportedDialect Options :=
  match Sql.Dialect.parse invocation.dialect with
  | .ok dialect => .ok { dialect, policy := invocation.policy, suffix := invocation.suffix }
  | .error error => .error error

/-- The code that a run generates from an opened root, and the sink it is to be written to.
All that a run decides is decided here; what is left is to write once. -/
def Invocation.plan (invocation : Invocation) (opened : Except DiscoverError SearchRoot) :
    Except RunError (Output.Sink × String) :=
  match invocation.options with
  | .error error => .error (.unsupportedDialect error)
  | .ok options =>
    match Catalog.collectOpened opened options with
    | .error error => .error (.collect error)
    | .ok catalog =>
      match Code.generate options.compiler catalog with
      | .error error => .error (.clash error)
      | .ok code =>
        match Output.Sink.ofOptions invocation.out invocation.permissions with
        | .error error => .error (.output error)
        | .ok sink => .ok (sink, code)

/-- Generate the code and write it. -/
def Invocation.perform (invocation : Invocation) : EStateM RunError Output.World Unit := do
  let world ← get
  let (sink, code) ← MonadExcept.ofExcept (invocation.plan (openRoot world.files invocation.root))
  (sink.deliver code).adaptExcept .output

/-- What a run comes to. -/
structure Outcome where
  status : Nat
  standardOutput : List UInt8
  standardError : String
  files : Files.FileSystem
  deriving DecidableEq

/-- The name and the version of the program. -/
def versionText : String :=
  "sqlgen 0.1.0\n"

/-- How the program is called. -/
def usageText : String :=
  "Usage: sqlgen [OPTIONS]\n"

/-- Answer a request, with messages in color or without. -/
def Request.answer (colored : Bool) (files : Files.FileSystem) : Request → Outcome
  | .showVersion =>
    { status := 0, standardOutput := Utf8.encode versionText, standardError := "", files }
  | .showHelp =>
    { status := 0, standardOutput := Utf8.encode usageText, standardError := "", files }
  | .rejected => { status := 2, standardOutput := [], standardError := usageText, files }
  | .run invocation =>
    match invocation.perform (.start files) with
    | .ok _ world =>
      { status := 0
        standardOutput := world.printed
        standardError := ""
        files := world.files }
    | .error error world =>
      { status := error.status
        standardOutput := world.printed
        standardError := error.printed colored
        files := world.files }

/-- Run the program on a command line, in an environment and a file system, away from any
terminal. -/
def run (arguments : List String) (environment : Environment) (files : Files.FileSystem) :
    Outcome :=
  (Request.read arguments environment).answer (Color.showsColor false environment) files

end NamedSql.CommandLine
