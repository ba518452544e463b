/-
Catalogs: queries grouped by namespace, in order of arrival.

* `Catalog.insert` — one more query, unless its accessor is taken in its namespace;
* `Catalog.queries` — all queries, group by group.
-/
import NamedSql.Query.Query

namespace NamedSql

/-- Namespaces in the order of their first queries, each with its queries in order. -/
structure Catalog where
  groups : List (String × List Query)
  deriving DecidableEq, Repr

/-- Two files of one namespace with one accessor. -/
structure DuplicateAccessor where
  path : String
  /-- The file that came first. -/
  other : String
  group : String
  accessor : String
  deriving DecidableEq, Repr

/-- The message of a duplicate. -/
def DuplicateAccessor.message (error : DuplicateAccessor) : String :=
  s!"{error.path} and {error.other} both generate {error.group}::{error.accessor}"

namespace Catalog

/-- No queries. -/
def empty : Catalog :=
  { groups := [] }

/-- The queries of a namespace. -/
def get? (catalog : Catalog) (group : String) : Option (List Query) :=
  catalog.groups.lookup group

/-- All queries, group by group. -/
def queries (catalog : Catalog) : List Query :=
  catalog.groups.flatMap Prod.snd

/-- The number of queries. -/
def size (catalog : Catalog) : Nat :=
  catalog.queries.length

/-- Whether there is no namespace. -/
def isEmpty (catalog : Catalog) : Bool :=
  catalog.groups.isEmpty

/-- Put queries at the end of the group of their namespace, which opens if there is none. -/
def append (group : String) (query : Query) :
    List (String × List Query) → List (String × List Query)
  | [] => [(group, [query])]
  | (other, queries) :: rest =>
    if other = group then (other, queries ++ [query]) :: rest
    else (other, queries) :: append group query rest

/-- Add a query to its namespace. -/
def insert (catalog : Catalog) (query : Query) : Except DuplicateAccessor Catalog :=
  let taken := ((catalog.get? query.name.group).getD []).find? fun other =>
    other.name.accessor = query.name.accessor
  match taken with
  | some other =>
    .error
      { path := query.relativePath
        other := other.relativePath
        group := query.name.group
        accessor := query.name.accessor }
  | none => .ok { groups := append query.name.group query catalog.groups }

/-- Put a group of queries in place: a new namespace goes to the end, an old one keeps its
position and takes the new queries. -/
def setGroup (catalog : Catalog) (group : String) (queries : List Query) : Catalog :=
  if (catalog.get? group).isSome then
    { groups :=
        catalog.groups.map fun entry => if entry.1 = group then (group, queries) else entry }
  else { groups := catalog.groups ++ [(group, queries)] }

end Catalog

end NamedSql
