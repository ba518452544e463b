/-
Compiling a query: each marker becomes a positional placeholder, and all other bytes
are kept.

* `ParameterTable.number` — the number of one more reference, and the table with it;
* `substitute` — the bytes and the table of a token list;
* `Compiler.compile` — the compiled query, or the error of a region left open.
-/
import NamedSql.Sql.Reference
import NamedSql.Sql.Dialect

namespace NamedSql.Sql

/-- A named parameter and its position, counted from 1. -/
structure Parameter where
  name : String
  index : Nat
  deriving DecidableEq, Repr

/-- The parameters of a query in the order of their positions. -/
abbrev ParameterTable := List Parameter

namespace ParameterTable

/-- The first position of a name. -/
def indexOf? (table : ParameterTable) (name : String) : Option Nat :=
  (table.find? fun parameter => parameter.name = name).map Parameter.index

/-- The table with one more parameter at the next position. -/
def push (table : ParameterTable) (name : String) : ParameterTable :=
  table ++ [{ name, index := table.length + 1 }]

/-- The number of a further reference to a name, and the table afterwards. -/
def number (policy : NumberingPolicy) (table : ParameterTable) (name : String) :
    Nat × ParameterTable :=
  match policy, table.indexOf? name with
  | .collapse, some index => (index, table)
  | _, _ => (table.length + 1, table.push name)

end ParameterTable

/-- The bytes of a token list with every marker replaced by its placeholder, and the
parameter table that a given one grows into. -/
def substitute (dialect : Dialect) (policy : NumberingPolicy) (table : ParameterTable) :
    List Token → List UInt8 × ParameterTable
  | [] => ([], table)
  | token :: rest =>
    if token.kind = .marker then
      let (index, table) := table.number policy token.name
      let (bytes, table) := substitute dialect policy table rest
      (Utf8.encode (dialect.placeholder index) ++ bytes, table)
    else
      let (bytes, table) := substitute dialect policy table rest
      (token.text ++ bytes, table)

/-- A query with positional placeholders. -/
structure CompiledSql where
  sql : String
  parameters : ParameterTable
  deriving DecidableEq, Repr

/-- A dialect and the policy in force. -/
structure Compiler where
  dialect : Dialect
  policy : NumberingPolicy
  deriving DecidableEq, Repr

namespace Compiler

/-- A compiler with a policy of choice, by default the one its dialect expects. -/
def of (dialect : Dialect) (policy : Option NumberingPolicy) : Compiler :=
  { dialect, policy := policy.getD dialect.defaultPolicy }

/-- The compiler for numbered dollar placeholders. -/
def standard : Compiler :=
  of .dollar none

/-- Replace every marker of a query by its placeholder. -/
def compile (compiler : Compiler) (sql : String) : Except ScanError CompiledSql :=
  let lexed := lexQuery sql
  match lexed.error? with
  | some error => .error error
  | none =>
    let (bytes, parameters) := substitute compiler.dialect compiler.policy [] lexed.tokens
    .ok { sql := Utf8.decode bytes, parameters }

end Compiler

end NamedSql.Sql
