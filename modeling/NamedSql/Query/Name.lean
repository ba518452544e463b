/-
The names of a query, derived from where its file lies.

`users/find_by_id.sql` is the query `FindById` of the namespace `Users`. Deeper paths
fold every directory after the first into the accessor: `users/admin/list.sql` is
`AdminList`.

* `QueryName.ofPath` — the names of a path, or what is wrong with it;
* `isIdentifier` — what a segment of a name must look like.
-/
import NamedSql.Path
import NamedSql.Text.Words

namespace NamedSql

/-- The names of one query. -/
structure QueryName where
  /-- The namespace: the first segment. -/
  group : String
  /-- The name within the namespace: all other segments. -/
  accessor : String
  /-- All segments. -/
  key : String
  deriving DecidableEq, Repr

/-- Why a path gives no names. -/
inductive NameError where
  /-- The file does not lie in a directory of its own. -/
  | shallow (path suffix : String)
  /-- A segment of the path is no identifier. -/
  | invalidIdentifier (path segment : String)
  deriving DecidableEq, Repr

/-- The message of a naming error. -/
def NameError.message : NameError → String
  | .shallow path suffix =>
    s!"{path}: query files must be laid out as <namespace>/<name>.{suffix}, "
      ++ "but this one sits directly in the root"
  | .invalidIdentifier path segment =>
    s!"{path}: segment '{segment}' does not produce a valid identifier"

/-- Whether a text is an ASCII letter and then ASCII letters and digits, and not the word
`Self`, which names no item. -/
def isIdentifier (text : String) : Bool :=
  match text.toList with
  | [] => false
  | first :: rest => first.isAlpha && rest.all Char.isAlphanum && text != "Self"

/-- The segments that a path is named by: its directories and its file name without the
extension. -/
def nameSegments (path : String) : List String :=
  (Path.parentComponents path).map Path.Component.text ++ (Path.fileStem? path).toList

/-- The identifier of a segment. -/
def segmentIdentifier (path segment : String) : Except NameError String :=
  let identifier := Text.upperCamel segment
  if isIdentifier identifier then .ok identifier else .error (.invalidIdentifier path segment)

/-- The names of a path below the root. -/
def QueryName.ofPath (path suffix : String) : Except NameError QueryName :=
  let segments := nameSegments path
  if segments.length < 2 then .error (.shallow path suffix)
  else
    match segments.mapM (segmentIdentifier path) with
    | .error error => .error error
    | .ok identifiers =>
      .ok
        { group := identifiers.head?.getD ""
          accessor := String.join identifiers.tail
          key := String.join identifiers }

end NamedSql
