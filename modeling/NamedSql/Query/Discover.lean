/-
Finding query files.

The directories below the root are walked depth first, the entries of each in the byte
order of their names, so that the order of the result does not hang on how a directory is
listed. Regular files with the wanted extension are query files. Symbolic links are not
followed, save in the path of the root. A directory that cannot be listed ends the search.

* `walk` — the regular files below a directory, and the directories that cannot be listed;
* `discover` — the query files below a root.
-/
import NamedSql.Files.FileSystem
import NamedSql.Query.Query
import NamedSql.Text.Utf8

namespace NamedSql

open Files

/-- What a walk comes upon. -/
inductive Sight where
  /-- A regular file, and what reading it gives. -/
  | file (content : Except FileError (List UInt8))
  /-- A directory that cannot be listed. -/
  | closed (cause : FileError)

/-- What a walk comes upon, and the names that lead to it. -/
structure Visit where
  names : List Name
  sight : Sight

/-- What a walk comes upon in one entry of a directory, under the entry's name. -/
structure Block where
  name : Name
  visits : List Visit

/-- Blocks in the byte order of their names: each goes in front of the first one whose name does
not come before its own. -/
def sortBlocks (blocks : List Block) : List Block :=
  blocks.foldr (fun block sorted =>
    sorted.takeWhile (fun other => ¬ block.name ≤ other.name) ++
      block :: sorted.dropWhile (fun other => ¬ block.name ≤ other.name)) []

/-- What is come upon in blocks, in the byte order of the blocks' names. -/
def inNameOrder (blocks : List Block) : List Visit :=
  (sortBlocks blocks).flatMap Block.visits

section

-- the obstacle on the way to what names lead to, if there is one
variable (obstacle? : List Name → Option FileError)

/-- What a walk comes upon in an entry that is no directory. -/
def visitLeaf (names : List Name) : Leaf → List Visit
  | .file file => [{ names, sight := .file (readAt (obstacle? names) file) }]
  | _ => []

/-- What a walk comes upon in a directory: the directory itself if it cannot be listed, and
otherwise what is in it. -/
def visitDirectory (names : List Name) (mode : Mode) (inside : List Visit) : List Visit :=
  match refusal? (obstacle? names) mode with
  | some cause => [{ names, sight := .closed cause }]
  | none => inside

/-- What a walk comes upon in each entry of a listing, which lies below the names of `above`. -/
def walkBlocks (above : List Name) : Listing → List Block
  | .nil => []
  | .leaf name entry rest =>
    { name, visits := visitLeaf obstacle? (above ++ [name]) entry } :: walkBlocks above rest
  | .dir name mode entries rest =>
    let names := above ++ [name]
    let inside := inNameOrder (walkBlocks names entries)
    { name, visits := visitDirectory obstacle? names mode inside } :: walkBlocks above rest

/-- What a walk comes upon in a directory and below, at any depth. -/
def walk (directory : Directory) : List Visit :=
  visitDirectory obstacle? [] directory.mode
    (inNameOrder (walkBlocks obstacle? [] directory.entries))

end

/-- Why query files cannot be found. -/
inductive DiscoverError where
  /-- The root leads nowhere. -/
  | root (path : String) (cause : FileError)
  | notADirectory (path : String)
  /-- A directory below the root cannot be listed. Its path may be shown with replacement
  characters. -/
  | walk (path shown : String) (cause : FileError)
  /-- The path of a file, shown here with replacement characters, is no text. -/
  | invalidPath (shown : String)
  | name (error : NameError)
  deriving DecidableEq, Repr

/-- The message of a discovery error. -/
def DiscoverError.message : DiscoverError → String
  | .root path cause => s!"cannot resolve root directory {path}: {cause.message}"
  | .notADirectory path => s!"root {path} is not a directory"
  | .walk path shown cause =>
    s!"cannot walk {path}: IO error for operation on {shown}: {cause.message}"
  | .invalidPath shown => s!"path is not valid UTF-8: {shown}"
  | .name error => error.message

/-- A query file, and what reading it gives. -/
structure Discovered where
  file : QueryFile
  content : Except FileError (List UInt8)

/-- An extension as it is asked for, without dots in front. -/
def trimSuffix (suffix : String) : String :=
  String.ofList (suffix.toList.dropWhile (· = '.'))

/-- The path of a file below a directory. -/
def pathBelow (directory path : String) : String :=
  (if directory = "/" then "" else directory) ++ "/" ++ path

/-- The path of what names lead to below a directory, with replacement characters where it is no
text. -/
def shownBelow (directory : String) (names : List Name) : String :=
  if names.isEmpty then directory
  else pathBelow directory (Utf8.decode (Files.relativePath names))

/-- The query file that a file below the root is, if it has the extension. -/
def queryFile? (root suffix : String) (names : List Name)
    (content : Except FileError (List UInt8)) : Except DiscoverError (Option Discovered) :=
  match names.mapM Utf8.decode? with
  | none => .error (.invalidPath (shownBelow root names))
  | some texts =>
    if texts.getLast?.bind Path.extension? = some suffix then
      let relativePath := "/".intercalate texts
      match QueryName.ofPath relativePath suffix with
      | .ok name =>
        let file := { path := pathBelow root relativePath, relativePath, name }
        .ok (some { file, content })
      | .error error => .error (.name error)
    else .ok none

/-- The query file that a walk below the root has come upon, if it is one. -/
def Visit.query? (root suffix : String) (visit : Visit) :
    Except DiscoverError (Option Discovered) :=
  match visit.sight with
  | .file content => queryFile? root suffix visit.names content
  | .closed cause => .error (.walk root (shownBelow root visit.names) cause)

/-- The query files among what a walk below the root has come upon, or the first error. -/
def queryFiles (root suffix : String) : List Visit → Except DiscoverError (List Discovered)
  | [] => .ok []
  | visit :: rest =>
    match visit.query? root suffix with
    | .error error => .error error
    | .ok none => queryFiles root suffix rest
    | .ok (some file) =>
      match queryFiles root suffix rest with
      | .ok others => .ok (file :: others)
      | .error error => .error error

/-- The directory that a search starts from. -/
structure SearchRoot where
  /-- The names that lead to it. -/
  above : List Name
  /-- The canonical path. -/
  path : String
  directory : Directory
  deriving DecidableEq, Repr

/-- What a walk below the root comes upon. -/
def SearchRoot.walk (root : SearchRoot) : List Visit :=
  NamedSql.walk (root.directory.obstacle? root.above) root.directory

/-- The directory that a root path leads to, if its canonical path is a text and leads there. -/
def openRoot (files : FileSystem) (root : String) : Except DiscoverError SearchRoot :=
  match files.canonical (Utf8.encode root) with
  | .error cause => .error (.root root cause)
  | .ok (names, node) =>
    match Utf8.decode? (absolutePath names) with
    | none => .error (.root root (.invalidPath (Utf8.decode (absolutePath names))))
    | some path =>
      match node, files.root.obstacle? [] names with
      | .dir directory, none => .ok { above := names, path, directory }
      | _, _ => .error (.notADirectory path)

/-- The query files of an opened root. -/
def discoverOpened (opened : Except DiscoverError SearchRoot) (suffix : String) :
    Except DiscoverError (List Discovered) :=
  match opened with
  | .error error => .error error
  | .ok root => queryFiles root.path (trimSuffix suffix) root.walk

/-- The query files below a root. -/
def discover (files : FileSystem) (root suffix : String) :
    Except DiscoverError (List Discovered) :=
  discoverOpened (openRoot files root) suffix

end NamedSql
