/-
What stands in the way of a path.

A path that is handed over whole must not be too long, and every directory on the way has to
let names be looked up in it.  Once reached, a file is read and a directory is listed if its
own mode grants it.

* `absolutePath`, `relativePath` — the path that names lead along;
* `Directory.obstacle?` — why what names lead to cannot be reached;
* `readAt`, `refusal?` — what comes of reading a file and of listing a directory.
-/
import NamedSql.Files.Listing

namespace NamedSql.Files

/-- The path that names lead along from the root. -/
def absolutePath (names : List Name) : List UInt8 :=
  if names.isEmpty then [slash] else names.flatMap fun name => slash :: name

/-- The path that names lead along from a directory. -/
def relativePath (names : List Name) : List UInt8 :=
  [slash].intercalate names

/-- The longest path that can be handed over whole. -/
def maxPath : Nat := 4095

namespace Directory

/-- Whether names may be looked up one after the other: in the directory, and in all those on
the way. -/
def admits (directory : Directory) : List Name → Bool
  | [] => true
  | name :: rest =>
    directory.mode.ownerSearches &&
      match directory.entries.find? name with
      | some (.dir inner) => inner.admits rest
      | _ => true

/-- Why what names lead to from a directory cannot be reached by its whole path, where the names
of `above` lead to the directory. -/
def obstacle? (above : List Name) (directory : Directory) (names : List Name) :
    Option FileError :=
  if maxPath < (absolutePath (above ++ names)).length then some .nameTooLong
  else if directory.admits names then none
  else some .permissionDenied

end Directory

/-- What reading a file gives, if there may be an obstacle on the way to it. -/
def readAt (obstacle? : Option FileError) (file : File) : Except FileError (List UInt8) :=
  match obstacle? with
  | some cause => .error cause
  | none => file.read

/-- Why a directory with a mode cannot be listed, if there may be an obstacle on the way to
it. -/
def refusal? (obstacle? : Option FileError) (mode : Mode) : Option FileError :=
  match obstacle? with
  | some cause => some cause
  | none => if mode.ownerReads then none else some .permissionDenied

end NamedSql.Files
