/-
Paths as text: components, file names and extensions.

Slashes separate components; repeated slashes, a slash at the end and a `.` anywhere but
in front mean nothing. A slash in front is a component of its own, the root.

* `components` — the components of a path;
* `fileName?`, `fileStem?` — its last name, with and without the extension;
* `extension?` — what follows the last dot of a file name.
-/

namespace NamedSql.Path

/-- A component of a path. -/
inductive Component where
  | root
  | current
  | parent
  | name (text : String)
  deriving DecidableEq, Repr

/-- A component as it is written. -/
def Component.text : Component → String
  | .root => "/"
  | .current => "."
  | .parent => ".."
  | .name text => text

/-- The component that a stretch between slashes stands for. -/
def Component.ofStretch? (stretch : List Char) : Option Component :=
  if stretch = [] ∨ stretch = ['.'] then none
  else if stretch = ['.', '.'] then some .parent
  else some (.name (String.ofList stretch))

/-- The components of a path. -/
def components (path : String) : List Component :=
  let stretches := path.toList.splitOn '/'
  let front : List Component :=
    if path.toList.head? = some '/' then [.root]
    else if stretches.head? = some ['.'] then [.current]
    else []
  front ++ stretches.filterMap Component.ofStretch?

/-- The components above the last one. -/
def parentComponents (path : String) : List Component :=
  (components path).dropLast

/-- The last component, if it is a name. -/
def fileName? (path : String) : Option String :=
  match (components path).getLast? with
  | some (.name text) => some text
  | _ => none

/-- A file name cut at its last dot. A dot in front hides the file and starts no
extension. -/
def splitExtension (name : List Char) : List Char × Option (List Char) :=
  let behind := (name.reverse.takeWhile (· != '.')).reverse
  let stem := name.take (name.length - behind.length - 1)
  if stem.isEmpty then (name, none) else (stem, some behind)

/-- The file name without its extension. -/
def fileStem? (path : String) : Option String :=
  (fileName? path).map fun name => String.ofList (splitExtension name.toList).1

/-- The extension of a file name. -/
def extension? (name : String) : Option String :=
  (splitExtension name.toList).2.map String.ofList

/-- A path taken from a base directory; one that starts at the root stands by itself. -/
def join (base path : String) : String :=
  if path.toList.head? = some '/' then path else base ++ "/" ++ path

end NamedSql.Path
