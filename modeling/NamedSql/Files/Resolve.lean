/-
Following a path through directories and symbolic links.

A path is a list of steps. A step can only be taken from a directory that lets names be looked
up in it; a symbolic link is replaced by the steps of its target, and no more than forty may
be met on the way.

* `steps` — the steps of a path;
* `resolve` — the entry that steps lead to, or the free place for one.
-/
import NamedSql.Files.Reach
import NamedSql.Path

namespace NamedSql.Files

/-- One step of a path. -/
inductive Step where
  /-- `.` -/
  | stay
  /-- `..` -/
  | up
  | enter (name : Name)
  /-- A slash at the end, which only a directory can have. -/
  | close
  deriving DecidableEq, Repr

/-- The step that a stretch between slashes stands for. -/
def Step.ofStretch? (stretch : List UInt8) : Option Step :=
  if stretch = [] then none
  else if stretch = [dot] then some .stay
  else if stretch = [dot, dot] then some .up
  else some (.enter stretch)

/-- The steps of a path. -/
def steps (path : List UInt8) : List Step :=
  (path.splitOn slash).filterMap Step.ofStretch?
    ++ (if path.getLast? = some slash then [.close] else [])

/-- Whether a path starts at the root. -/
def isAbsolute (path : List UInt8) : Bool :=
  path.head? == some slash

/-- What a path is followed for. -/
inductive Purpose where
  /-- The canonical path of something that exists: every name is looked up by the whole path
  that leads to it from the root. -/
  | existing
  /-- Something that exists, by a path that is handed over whole. -/
  | reading
  /-- A file to be written, which is created if it is missing. -/
  | writing
  deriving DecidableEq, Repr

/-- What steps lead to. -/
inductive Place where
  /-- An entry, and the names that lead to it without links. -/
  | taken (path : List Name) (node : Node)
  /-- A name in an existing directory that has no such entry. -/
  | free (directory : List Name) (name : Name)
  deriving DecidableEq, Repr

/-- The longest name of an entry. -/
def maxName : Nat := 255

/-- The number of symbolic links that may be met. -/
def maxLinks : Nat := 40

/-- Whether names may be looked up in the directory that names lead to. -/
def Directory.searchable (root : Directory) (names : List Name) : Bool :=
  match root.nodeAt? names with
  | some (.dir directory) => directory.mode.ownerSearches
  | _ => true

/-- Why a step cannot be taken from the directory that names lead to.  A canonical path has no
dots, so that they ask for no rights there; otherwise they are names that are looked up. -/
def Step.obstacle? (root : Directory) (names : List Name) : Purpose → Step → Option FileError
  | .existing, .enter name => root.obstacle? [] (names ++ [name])
  | .existing, _ => none
  | _, .close => none
  | _, _ => if root.searchable names then none else some .permissionDenied

/-- Take steps from a directory, following a symbolic link by `follow`, which is given the
directory, the target and the steps behind the link. -/
def resolveWith (root : Directory) (purpose : Purpose)
    (follow : List Name → List UInt8 → List Step → Except FileError Place)
    (directory : List Name) : List Step → Except FileError Place
  | [] =>
    match root.nodeAt? directory with
    | some node => .ok (.taken directory node)
    | none => .error .notFound
  | step :: rest =>
    match Step.obstacle? root directory purpose step, root.nodeAt? directory with
    | some cause, _ => .error cause
    | none, none => .error .notFound
    | none, some (.leaf _) => .error .notADirectory
    | none, some (.dir current) =>
      match step with
      | .stay => resolveWith root purpose follow directory rest
      | .close => resolveWith root purpose follow directory rest
      | .up => resolveWith root purpose follow directory.dropLast rest
      | .enter name =>
        if purpose = .writing ∧ rest = [.close] then .error .isADirectory
        else if maxName < name.length then .error .nameTooLong
        else
          match current.entries.find? name with
          | some (.leaf (.link target)) => follow directory target rest
          | some _ => resolveWith root purpose follow (directory ++ [name]) rest
          | none => if rest = [] then .ok (.free directory name) else .error .notFound

/-- Take steps from a directory, with `links` symbolic links left to follow. A target that is
no path leads nowhere. -/
def resolve (root : Directory) (purpose : Purpose) :
    Nat → List Name → List Step → Except FileError Place
  | 0 => resolveWith root purpose fun _ _ _ => .error .tooManyLinks
  | links + 1 =>
    resolveWith root purpose fun directory target rest =>
      if target = [] ∨ 0 ∈ target then .error .notFound
      else resolve root purpose links (if isAbsolute target then [] else directory)
        (steps target ++ rest)

end NamedSql.Files
