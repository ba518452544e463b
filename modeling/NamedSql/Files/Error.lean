/-
What can go wrong with a file.
-/

namespace NamedSql.Files

/-- Why a file operation fails. -/
inductive FileError where
  | notFound
  | notADirectory
  | isADirectory
  | permissionDenied
  | noSpace
  | nameTooLong
  | tooManyLinks
  /-- The content of a file is no text. -/
  | invalidText
  /-- A path holds a NUL character. -/
  | nulInPath
  /-- A path, shown here with replacement characters, is no text. -/
  | invalidPath (shown : String)
  /-- Any other cause, in the words and by the number of the system. -/
  | other (description : String) (code : Nat)
  deriving DecidableEq, Repr

/-- The message of a file error. -/
def FileError.message : FileError → String
  | .notFound => "No such file or directory (os error 2)"
  | .notADirectory => "Not a directory (os error 20)"
  | .isADirectory => "Is a directory (os error 21)"
  | .permissionDenied => "Permission denied (os error 13)"
  | .noSpace => "No space left on device (os error 28)"
  | .nameTooLong => "File name too long (os error 36)"
  | .tooManyLinks => "Too many levels of symbolic links (os error 40)"
  | .invalidText => "stream did not contain valid UTF-8"
  | .nulInPath => "file name contained an unexpected NUL byte"
  | .invalidPath shown => s!"PathBuf contains invalid UTF-8: {shown}"
  | .other description code => s!"{description} (os error {code})"

/-- The cause that the system gives a number, and describes in words of its own. -/
def FileError.ofCode (description : String) : Nat → FileError
  | 2 => .notFound
  | 13 => .permissionDenied
  | 20 => .notADirectory
  | 21 => .isADirectory
  | 28 => .noSpace
  | 36 => .nameTooLong
  | 40 => .tooManyLinks
  | code => .other description code

end NamedSql.Files
