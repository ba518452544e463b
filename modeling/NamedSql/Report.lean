/-
Source reports: an error with the line of a source text that it concerns.

    Error: unterminated string literal starting at byte 7
       ╭─[ users/broken.sql:1:8 ]
       │
     1 │ SELECT 'oops
       │        ┬
       │        ╰── this string literal is never closed
    ───╯

The label points at one character. Its line is drawn without the white space at its end,
tabs go to the next multiple of four characters, and other white space is a single
space.

* `locate` — the line and the column of a byte of the source;
* `render` — the report.
-/
import NamedSql.Text.CellWidth
import NamedSql.Text.Printable
import NamedSql.Text.Words

namespace NamedSql.Report

/-- Whether a character ends a line. -/
def isLineBreak (c : Char) : Bool :=
  c ∈ ['\n', '\r', '\x0B', '\x0C', '\u0085', '\u2028', '\u2029']

/-- The lines of a text with the line breaks that end them; a carriage return and a line
feed behind it are one. -/
def sourceLines : List Char → List (List Char)
  | [] => [[]]
  | [c] => if isLineBreak c then [[c], []] else [[c]]
  | c :: next :: rest =>
    if c = '\r' ∧ next = '\n' then [c, next] :: sourceLines rest
    else if isLineBreak c then [c] :: sourceLines (next :: rest)
    else Text.consFirst c (sourceLines (next :: rest))

/-- The bytes that characters take. -/
def byteLength : List Char → Nat
  | [] => 0
  | c :: rest => c.utf8Size + byteLength rest

/-- The number of characters that start before a byte of a text. -/
def columnOf (offset : Nat) : List Char → Nat
  | [] => 0
  | c :: rest => if offset = 0 then 0 else columnOf (offset - c.utf8Size) rest + 1

/-- A place in a source text. -/
structure Location where
  /-- The number of the line, from 0. -/
  line : Nat
  /-- The number of the character in the line, from 0. -/
  column : Nat
  /-- The line, with its line break. -/
  text : List Char
  deriving DecidableEq, Repr

/-- The place of a byte in lines that are numbered from `line` on. -/
def locateIn (line offset : Nat) : List (List Char) → Location
  | [] => { line, column := 0, text := [] }
  | [text] => { line, column := columnOf offset text, text }
  | text :: rest =>
    if offset < byteLength text then { line, column := columnOf offset text, text }
    else locateIn (line + 1) (offset - byteLength text) rest

/-- The place of a byte in a source text. -/
def locate (source : String) (offset : Nat) : Location :=
  locateIn 0 offset (sourceLines source.toList)

/-- A character of the shown line, drawn at a column. -/
def drawChar (column : Nat) (c : Char) : List Char :=
  if c = '\t' then List.replicate ((column / 4 + 1) * 4 - column) ' '
  else if Text.isBlank c then [' ']
  else [c]

/-- The cells that a character of the shown line takes. -/
def charCells (column : Nat) (c : Char) : Nat :=
  if c = '\t' ∨ Text.isBlank c then (drawChar column c).length else Text.cellWidth c

/-- The cells that a column takes; past the end of the line there is one. -/
def columnCells (shown : List Char) (column : Nat) : Nat :=
  match shown[column]? with
  | some c => charCells column c
  | none => 1

/-- The cells that characters take, the first of which stands at a column. -/
def cellsFrom (column : Nat) : List Char → Nat
  | [] => 0
  | c :: rest => charCells column c + cellsFrom (column + 1) rest

/-- Characters as they are drawn, the first of them at a column. -/
def drawFrom (column : Nat) : List Char → List Char
  | [] => []
  | c :: rest => drawChar column c ++ drawFrom (column + 1) rest

/-- A character repeated to a text. -/
def fill (count : Nat) (c : Char) : String :=
  String.ofList (List.replicate count c)

/-- An error message, the byte it concerns and the label at that byte. -/
structure Diagnostic where
  message : String
  offset : Nat
  label : String

/-- The report of a diagnostic in the source text of a path. -/
def render (path source : String) (diagnostic : Diagnostic) : String :=
  let place := locate source diagnostic.offset
  let shown := Text.trimEnd place.text
  let line := place.line + 1
  let column := place.column + 1
  let indent := (toString line).length + 2
  let margin := fill indent ' '
  let before := fill (cellsFrom 0 (shown.take place.column)) ' '
  let behind := columnCells shown (place.column + 1) + columnCells shown (place.column + 2)
  let blank := fill behind ' '
  let arrow := fill behind '─'
  let foot := fill indent '─'
  s!"Error: {diagnostic.message}\n"
    ++ s!"{margin}╭─[ {path}:{line}:{column} ]\n"
    ++ s!"{margin}│\n"
    ++ s!" {line} │ " ++ String.ofList (drawFrom 0 shown) ++ "\n"
    ++ s!"{margin}│ {before}┬{blank}\n"
    ++ s!"{margin}│ {before}╰{arrow} {diagnostic.label}\n"
    ++ s!"{foot}╯\n"

end NamedSql.Report
