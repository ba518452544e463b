/-
Placeholder dialects and numbering policies.

* `Dialect.parse?` — a dialect by its name or an alias, in any ASCII case;
* `Dialect.placeholder` — the text of a placeholder with a given number;
* `NumberingPolicy` — whether the references to one name share a number.
-/

namespace NamedSql.Sql

/-- How positional placeholders are written. -/
inductive Dialect where
  /-- `$1`, `$2`, … -/
  | dollar
  /-- `?` for every slot. -/
  | question
  /-- `@p1`, `@p2`, … -/
  | atP
  /-- `:1`, `:2`, … -/
  | colon
  deriving DecidableEq, Repr

/-- Whether repeated references to one name share a number. -/
inductive NumberingPolicy where
  /-- One number for each name. -/
  | collapse
  /-- One number for each reference. -/
  | perOccurrence
  deriving DecidableEq, Repr

namespace NumberingPolicy

/-- The name of a policy. -/
def name : NumberingPolicy → String
  | .collapse => "collapse"
  | .perOccurrence => "per-occurrence"

/-- The policy of a name, which is case-sensitive. -/
def parse? (text : String) : Option NumberingPolicy :=
  [collapse, perOccurrence].find? fun policy => policy.name = text

end NumberingPolicy

namespace Dialect

/-- Every dialect, in the order they are listed to a reader. -/
def all : List Dialect :=
  [.dollar, .question, .atP, .colon]

/-- The name of a dialect. -/
def name : Dialect → String
  | .dollar => "dollar"
  | .question => "question"
  | .atP => "atp"
  | .colon => "colon"

/-- The names of databases and drivers that a dialect also goes by. -/
def aliases : Dialect → List String
  | .dollar => ["postgres", "postgresql"]
  | .question => ["qmark", "mysql", "sqlite"]
  | .atP => ["mssql", "sqlserver"]
  | .colon => ["oracle"]

/-- The dialect of a name or an alias; ASCII case does not matter. -/
def parse? (text : String) : Option Dialect :=
  let wanted := String.ofList (text.toList.map Char.toLower)
  all.find? fun dialect => decide (wanted = dialect.name ∨ wanted ∈ dialect.aliases)

/-- The policy that drivers of a dialect expect. Placeholders without a number bind in
textual order, so there every reference needs a slot of its own. -/
def defaultPolicy : Dialect → NumberingPolicy
  | .question => .perOccurrence
  | .dollar | .atP | .colon => .collapse

/-- The placeholder with a number. -/
def placeholder (dialect : Dialect) (index : Nat) : String :=
  match dialect with
  | .dollar => s!"${index}"
  | .question => "?"
  | .atP => s!"@p{index}"
  | .colon => s!":{index}"

end Dialect

/-- A dialect name that is none. -/
structure UnsupportedDialect where
  name : String
  deriving DecidableEq, Repr

/-- The message of an unknown dialect name. -/
def UnsupportedDialect.message (error : UnsupportedDialect) : String :=
  s!"unsupported dialect '{error.name}' (expected one of: "
    ++ ", ".intercalate (Dialect.all.map Dialect.name) ++ ")"

/-- The dialect of a name, or the complaint that there is none. -/
def Dialect.parse (text : String) : Except UnsupportedDialect Dialect :=
  match Dialect.parse? text with
  | some dialect => .ok dialect
  | none => .error { name := text }

end NamedSql.Sql
