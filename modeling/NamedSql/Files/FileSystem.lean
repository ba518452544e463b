/-
A file system: the directories below the root, and a working directory.

Reading and writing follow symbolic links. A file that is opened for writing is created with
the mode asked for, less the bits of the mask, or else keeps its mode and loses its content.
Then it takes what is written, all of it or as much as the system takes before it fails the
write. Both steps leave behind what they have done when they fail.

* `locate`, `find`, `canonical` — what a path leads to;
* `read?` — the content of a file;
* `openFile`, `Handle.write` — writing a file;
* `makeDirectories`, `put`, `link`, `mount`, `remove` — arranging files.
-/
import NamedSql.Files.Resolve

namespace NamedSql.Files

/-- A write that the system fails, once it has taken so many bytes. -/
structure WriteFault where
  taken : Nat
  cause : FileError
  deriving DecidableEq, Repr

/-- All files, and the directory that relative paths start from. -/
structure FileSystem where
  root : Directory
  workingDirectory : List Name
  /-- How the system fails a write, if it does. -/
  writeFault : Option WriteFault
  wellFormed : root.WellFormed
  deriving DecidableEq

/-- The permission bits that a new file never gets: writing by group and others. -/
def mask : Mode := 0o022

/-- The mode of a new file that is asked for with a mode. -/
def maskedMode (mode : Mode) : Mode :=
  mode &&& (Mode.all ^^^ mask)

/-- What has been opened for writing. -/
inductive Handle where
  /-- The file that names lead to, and its mode. -/
  | file (names : List Name) (mode : Mode)
  | device (device : Device)
  deriving DecidableEq, Repr

namespace FileSystem

/-- No files, and the root as the working directory. -/
def empty : FileSystem :=
  { root := { mode := 0o755, entries := .nil }
    workingDirectory := []
    writeFault := none
    wellFormed := trivial }

/-- What a path leads to. -/
def locate (files : FileSystem) (purpose : Purpose) (path : List UInt8) :
    Except FileError Place :=
  if 0 ∈ path then .error .nulInPath
  else if path = [] then .error .notFound
  else if purpose ≠ .existing ∧ maxPath < path.length then .error .nameTooLong
  else
    resolve files.root purpose maxLinks
      (if isAbsolute path then [] else files.workingDirectory) (steps path)

/-- The entry that a path leads to, and the names that lead to it without links. -/
def find (files : FileSystem) (purpose : Purpose) (path : List UInt8) :
    Except FileError (List Name × Node) :=
  match files.locate purpose path with
  | .ok (.taken names node) => .ok (names, node)
  | .ok (.free _ _) => .error .notFound
  | .error error => .error error

/-- The names that lead to an existing entry without links, and the entry. -/
def canonical (files : FileSystem) (path : List UInt8) :
    Except FileError (List Name × Node) :=
  files.find .existing path

/-- The file that a path leads to, if it may be read. An empty device reads as an empty file. -/
def read? (files : FileSystem) (path : List UInt8) : Option File :=
  match files.find .reading path with
  | .ok (_, .leaf (.file file)) => if file.mode.ownerReads then some file else none
  | .ok (_, .leaf (.device .null)) => some { content := [], mode := 0o666 }
  | _ => none

/-- Change the listing of a directory. -/
def change (files : FileSystem) (directory : List Name) (edit : Listing → Listing)
    (keeps : ∀ listing : Listing, listing.WellFormed → (edit listing).WellFormed) :
    FileSystem :=
  { files with
    root := files.root.update edit directory
    wellFormed := Directory.wellFormed_update keeps files.wellFormed directory }

/-- Put an entry that is no directory into a directory. -/
def setLeaf (files : FileSystem) (directory : List Name) (name : Name) (entry : Leaf) :
    FileSystem :=
  if h : isName name = true then
    files.change directory (·.set name (.leaf entry)) fun _ => Listing.wellFormed_set h trivial
  else files

/-- Put an empty directory into a directory. -/
def addDirectory (files : FileSystem) (directory : List Name) (name : Name) : FileSystem :=
  if h : isName name = true then
    let made : Directory := { mode := maskedMode 0o777, entries := .nil }
    files.change directory (·.set name (.dir made)) fun _ => Listing.wellFormed_set h trivial
  else files

/-- Put a file where names lead. -/
def setFile (files : FileSystem) (names : List Name) (file : File) : FileSystem :=
  match names.getLast? with
  | some name => files.setLeaf names.dropLast name (.file file)
  | none => files

/-- Whether entries may be put into the directory that names lead to. -/
def takesEntries (files : FileSystem) (names : List Name) : Bool :=
  match files.root.nodeAt? names with
  | some (.dir directory) => directory.mode.ownerWrites
  | _ => false

/-- What is taken of a content that is written, and the cause if that is not all. -/
def accept (files : FileSystem) (content : List UInt8) : List UInt8 × Option FileError :=
  match files.writeFault with
  | some fault =>
    if fault.taken < content.length then (content.take fault.taken, some fault.cause)
    else (content, none)
  | none => (content, none)

/-- Open what a path leads to for writing. A file that is missing is created, and one that is
there loses its content. -/
def openFile (path : List UInt8) (mode : Mode) : EStateM FileError FileSystem Handle := fun files =>
  match files.locate .writing path with
  | .error cause => .error cause files
  | .ok (.free directory name) =>
    if files.takesEntries directory then
      let names := directory ++ [name]
      let file : File := { content := [], mode := maskedMode mode }
      .ok (.file names file.mode) (files.setFile names file)
    else .error .permissionDenied files
  | .ok (.taken names (.leaf (.file file))) =>
    if file.mode.ownerWrites then
      .ok (.file names file.mode) (files.setFile names { file with content := [] })
    else .error .permissionDenied files
  | .ok (.taken _ (.leaf (.device device))) => .ok (.device device) files
  | .ok (.taken _ (.leaf (.link _))) => .error .tooManyLinks files
  | .ok (.taken _ (.dir _)) => .error .isADirectory files

end FileSystem

/-- Write a content to what has been opened. -/
def Handle.write (handle : Handle) (content : List UInt8) : EStateM FileError FileSystem Unit :=
  fun files =>
  match handle with
  | .device .null => .ok () files
  | .device .full => if content.isEmpty then .ok () files else .error .noSpace files
  | .file names mode =>
    match files.accept content with
    | (taken, none) => .ok () (files.setFile names { content := taken, mode })
    | (taken, some cause) => .error cause (files.setFile names { content := taken, mode })

namespace FileSystem

/-- Make a directory at a free place. -/
def makeDirectory (files : FileSystem) (path : List UInt8) : FileSystem :=
  match files.locate .reading path with
  | .ok (.free directory name) => files.addDirectory directory name
  | _ => files

/-- The directory part of a path and the name behind it. -/
def splitName (path : List UInt8) : List UInt8 × Name :=
  let name := (path.reverse.takeWhile (· != slash)).reverse
  (path.take (path.length - name.length), name)

/-- The paths that end in front of a slash of a path, the shortest first. -/
def ancestors (path : List UInt8) : List (List UInt8) :=
  (List.range path.length).filterMap fun i =>
    if path[i]? = some slash ∧ 0 < i then some (path.take i) else none

/-- Make a directory and all those above it that are missing. -/
def makeDirectories (files : FileSystem) (path : List UInt8) : FileSystem :=
  (ancestors path ++ [path]).foldl makeDirectory files

/-- Make the directories above a path. -/
def makeParents (files : FileSystem) (path : List UInt8) : FileSystem :=
  (ancestors path).foldl makeDirectory files

/-- Put a file with a content, along with the directories above it. -/
def put (files : FileSystem) (path content : List UInt8) : FileSystem :=
  match openFile path 0o666 (files.makeParents path) with
  | .error _ files => files
  | .ok handle files =>
    match handle.write content files with
    | .ok _ files => files
    | .error _ files => files

/-- The directory that a path names an entry of, and the name. -/
def entryOf? (files : FileSystem) (path : List UInt8) : Option (List Name × Name) :=
  let (directory, name) := splitName path
  let located :=
    if directory.isEmpty then some files.workingDirectory
    else
      match files.find .reading directory with
      | .ok (names, .dir _) => some names
      | _ => none
  located.map fun names => (names, name)

/-- Put an entry that is no directory, along with the directories above it. -/
def putLeaf (files : FileSystem) (path : List UInt8) (entry : Leaf) : FileSystem :=
  let files := files.makeParents path
  match files.entryOf? path with
  | some (directory, name) => files.setLeaf directory name entry
  | none => files

/-- Put a symbolic link. -/
def link (files : FileSystem) (path target : List UInt8) : FileSystem :=
  files.putLeaf path (.link target)

/-- Put a device. -/
def mount (files : FileSystem) (path : List UInt8) (device : Device) : FileSystem :=
  files.putLeaf path (.device device)

/-- Make a directory, with those above it, the working directory. -/
def enter (files : FileSystem) (path : List UInt8) : FileSystem :=
  let files := files.makeDirectories path
  match files.find .reading path with
  | .ok (names, .dir _) => { files with workingDirectory := names }
  | _ => files

/-- A path without the slashes at its end. -/
def trimSlashes (path : List UInt8) : List UInt8 :=
  (path.reverse.dropWhile (· == slash)).reverse

/-- Remove an entry, a directory with all that is in it; a link itself, not its target. A
slash at the end of the path asks for a directory. -/
def remove (files : FileSystem) (path : List UInt8) : FileSystem :=
  if maxPath < path.length then files
  else
    match files.entryOf? (trimSlashes path) with
    | none => files
    | some (directory, name) =>
      match path.getLast? == some slash, files.root.nodeAt? (directory ++ [name]) with
      | true, some (.leaf _) => files
      | _, _ => files.change directory (·.erase name) fun _ => Listing.wellFormed_erase

end FileSystem

end NamedSql.Files
