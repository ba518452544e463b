/-
The program, on the files and streams of the system.

What a run decides is `Invocation.plan`. Here the root is opened and read, and what was
planned is printed or written.
-/
import NamedSql.CommandLine.Program

namespace NamedSql.Main

open CommandLine

/-- The cause of an error of the system. -/
def fileError (error : IO.Error) : Files.FileError :=
  match error with
  | .noFileOrDirectory _ code details => .ofCode details code.toNat
  | .inappropriateType _ code details => .ofCode details code.toNat
  | .invalidArgument _ code details => .ofCode details code.toNat
  | .permissionDenied _ code details => .ofCode details code.toNat
  | .resourceExhausted _ code details => .ofCode details code.toNat
  | .noSuchThing _ code details => .ofCode details code.toNat
  | .otherError code details => .ofCode details code.toNat
  | error => .other (toString error) 0

/-- A regular file of the system. -/
def loadFile (path : String) : IO Files.File := do
  match ← (IO.FS.readBinFile path).toBaseIO with
  | .ok content => return { content := content.toList, mode := 0o400 }
  | .error _ => return { content := [], mode := 0 }

/-- A directory of the system with all that is in it.  One that cannot be listed is empty here,
and lets no owner list it. -/
partial def load (path : String) : IO Files.Directory := do
  let listing : IO (Array IO.FS.DirEntry) := do (← IO.FS.realPath path).readDir
  match ← listing.toBaseIO with
  | .error _ => return { mode := 0o100, entries := .nil }
  | .ok entries =>
    let mut directory : Files.Directory := { mode := 0o500, entries := .nil }
    for entry in entries do
      let name := Utf8.encode entry.fileName
      let rest := directory.entries
      match ← entry.path.symlinkMetadata.toBaseIO with
      | .error _ =>
        -- nothing can be looked up in the directory
        let unknown : Files.File := { content := [], mode := 0 }
        directory := { mode := 0o400, entries := .leaf name (.file unknown) rest }
      | .ok metadata =>
        match metadata.type with
        | .dir =>
          let inner ← load entry.path.toString
          directory := { directory with entries := .dir name inner.mode inner.entries rest }
        | .file =>
          let file ← loadFile entry.path.toString
          directory := { directory with entries := .leaf name (.file file) rest }
        | _ => directory := { directory with entries := .leaf name (.device .null) rest }
    return directory

/-- Open the root directory. -/
def openDirectory (root : String) : IO (Except DiscoverError SearchRoot) := do
  if root.isEmpty then return .error (.root root .notFound)
  match ← (IO.FS.realPath root).toBaseIO with
  | .error error => return .error (.root root (fileError error))
  | .ok path =>
    if ← path.isDir then
      let names := ((Utf8.encode path.toString).splitOn Files.slash).filter (· ≠ [])
      return .ok { above := names, path := path.toString, directory := ← load path.toString }
    else return .error (.notADirectory path.toString)

/-- The rights of one class of users in a mode. -/
def accessRight (bits : Nat) : IO.AccessRight :=
  { read := bits.testBit 2, write := bits.testBit 1, execution := bits.testBit 0 }

/-- Write a file, which gets a mode if it is created. -/
def writeFile (path : String) (mode : Files.Mode) (text : String) :
    IO (Except Output.OutputError Unit) := do
  let target : IO.FS.Handle → IO Unit := fun handle => do
    handle.putStr text
    handle.flush
  let existed ← (IO.FS.Handle.mk path .readWrite).toBaseIO
  match ← (IO.FS.Handle.mk path .write).toBaseIO with
  | .error error => return .error (.unopened path (fileError error))
  | .ok handle =>
    if let .error (.noFileOrDirectory ..) := existed then
      let mode := Files.maskedMode mode
      IO.setAccessRights path
        { user := accessRight (mode / 64), group := accessRight (mode / 8),
          other := accessRight mode }
    match ← (target handle).toBaseIO with
    | .ok () => return .ok ()
    | .error error => return .error (.unwritten path (fileError error))

/-- Print on standard output. -/
def printCode (code : String) : IO Unit := do
  let output ← IO.getStdout
  output.putStr code
  output.flush

/-- Write what a run has generated. -/
def write (sink : Output.Sink) (code : String) : IO (Except Output.OutputError Unit) := do
  match sink with
  | .standardOutput =>
    match ← (printCode code).toBaseIO with
    | .ok () => return .ok ()
    | .error error => return .error (.unwritten "standard output" (fileError error))
  | .file path mode => writeFile path mode code

/-- Report a failed run. -/
def fail (colored : Bool) (error : RunError) : IO UInt32 := do
  (← IO.getStderr).putStr (error.printed colored)
  return error.status.toUInt32

/-- Perform a run. -/
def perform (colored : Bool) (invocation : Invocation) : IO UInt32 := do
  match invocation.plan (← openDirectory invocation.root) with
  | .error error => fail colored error
  | .ok (sink, code) =>
    match ← write sink code with
    | .ok () => return 0
    | .error error => fail colored (.output error)

/-- The values of the variables that stand for options or matter to colors. -/
def readEnvironment : IO Environment :=
  (Setting.all.map Setting.environmentName ++ Color.variableNames).filterMapM fun name => do
    return (← IO.getEnv name).map fun value => (name, value)

end NamedSql.Main

open NamedSql NamedSql.CommandLine in
def main (arguments : List String) : IO UInt32 := do
  let environment ← NamedSql.Main.readEnvironment
  let colored := Color.showsColor (← (← IO.getStderr).isTty) environment
  match Request.read arguments environment with
  | .run invocation => NamedSql.Main.perform colored invocation
  | request =>
    let outcome := request.answer colored Files.FileSystem.empty
    (← IO.getStdout).write ⟨outcome.standardOutput.toArray⟩
    (← IO.getStderr).putStr outcome.standardError
    return outcome.status.toUInt32
