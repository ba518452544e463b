/-
Where generated code goes: to a file or to standard output, written in one go.

* `Sink.ofOptions` — the sink of an output option and the permissions beside it;
* `OutputError` — what can be wrong with an output;
* `Sink.deliver` — writing a text, which leaves behind what was done before it failed.
-/
import NamedSql.Files.FileSystem
import NamedSql.Text.Utf8

namespace NamedSql.Output

/-- Where generated code goes. -/
inductive Sink where
  | standardOutput
  /-- A file, with the mode it gets if it has to be created. -/
  | file (path : String) (mode : Files.Mode)
  deriving DecidableEq, Repr

/-- What can be wrong with an output. -/
inductive OutputError where
  | invalidPermissions (text : String)
  | unopened (path : String) (cause : Files.FileError)
  | unwritten (path : String) (cause : Files.FileError)
  deriving DecidableEq, Repr

/-- The message of an output error. -/
def OutputError.message : OutputError → String
  | .invalidPermissions text =>
    s!"invalid permission format '{text}': expected an octal string such as 0644"
  | .unopened path cause => s!"unable to open {path} for writing: {cause.message}"
  | .unwritten path cause => s!"unable to write to {path}: {cause.message}"

/-- The sink of an output option. A dash and the word `stdout` are standard output, for
which permissions do not matter. -/
def Sink.ofOptions (out permissions : String) : Except OutputError Sink :=
  if out = "-" ∨ out = "stdout" then .ok .standardOutput
  else
    match Files.Mode.parse? permissions with
    | some mode => .ok (.file out mode)
    | none => .error (.invalidPermissions permissions)

/-- The files, and what has been printed on standard output. -/
structure World where
  files : Files.FileSystem
  printed : List UInt8
  deriving DecidableEq

/-- A world in which nothing has been printed yet. -/
def World.start (files : Files.FileSystem) : World :=
  { files, printed := [] }

/-- Work on the files of a world. -/
def World.onFiles {ε α : Type} (work : EStateM ε Files.FileSystem α) : EStateM ε World α :=
  fun world =>
  match work world.files with
  | .ok result files => .ok result { world with files }
  | .error error files => .error error { world with files }

/-- Print a content on standard output. -/
def World.print (content : List UInt8) : EStateM Files.FileError World Unit := fun world =>
  match world.files.accept content with
  | (taken, none) => .ok () { world with printed := world.printed ++ taken }
  | (taken, some cause) => .error cause { world with printed := world.printed ++ taken }

/-- Write a text to a sink. A file is opened first, which takes its old content away. -/
def Sink.deliver (text : String) : Sink → EStateM OutputError World Unit
  | .standardOutput =>
    (World.print (Utf8.encode text)).adaptExcept (.unwritten "standard output")
  | .file path mode => do
    let handle ← (World.onFiles (Files.FileSystem.openFile (Utf8.encode path) mode)).adaptExcept
      (.unopened path)
    (World.onFiles (handle.write (Utf8.encode text))).adaptExcept (.unwritten path)

end NamedSql.Output
