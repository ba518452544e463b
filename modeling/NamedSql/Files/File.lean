/-
Regular files.

A program works for the owner of its files, so the owner's rights decide what it may do.
-/
import NamedSql.Files.Error
import NamedSql.Files.Mode

namespace NamedSql.Files

/-- A regular file. -/
structure File where
  content : List UInt8
  mode : Mode
  deriving DecidableEq, Repr

namespace File

/-- The content of a file. -/
def read (file : File) : Except FileError (List UInt8) :=
  if file.mode.ownerReads then .ok file.content else .error .permissionDenied

end File

end NamedSql.Files
