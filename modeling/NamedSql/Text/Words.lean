/-
Words in names, and the two case styles built from them.

A name is cut at every character that is neither a letter nor a number, and each piece
further where its case changes: between a lowercase run and a capital, and before the
last capital of a run that a small letter follows. Digits have no case and go with the
letters before them.

* `words` — the words of a name;
* `upperCamel` — `OrderItems`;
* `snake` — `order_items`.
-/
import NamedSql.Text.Alphanumeric
import NamedSql.Text.LetterCase

namespace NamedSql.Text

/-- Put a character in front of the first list. -/
def consFirst (c : Char) : List (List Char) → List (List Char)
  | [] => [[c]]
  | first :: rest => (c :: first) :: rest

/-- The stretches between characters that are neither letters nor numbers. -/
def alphanumericPieces : List Char → List (List Char)
  | [] => [[]]
  | c :: rest =>
    if isAlphanumeric c then consFirst c (alphanumericPieces rest)
    else [] :: alphanumericPieces rest

/-- The case of the letters read so far in a word. -/
inductive WordCase where
  /-- No letter with a case yet. -/
  | boundary
  | lower
  | upper
  deriving DecidableEq, Repr

/-- The case after one more character. -/
def WordCase.after (mode : WordCase) (c : Char) : WordCase :=
  if isLowercase c then .lower else if isUppercase c then .upper else mode

/-- The words of a piece, in the middle of whose first word the text starts. -/
def wordsFrom (mode : WordCase) : List Char → List (List Char)
  | [] => []
  | [c] => [[c]]
  | c :: next :: rest =>
    if mode.after c = .lower ∧ isUppercase next then
      [c] :: wordsFrom .boundary (next :: rest)
    else if mode = .upper ∧ isUppercase c ∧ isLowercase next then
      [] :: consFirst c (wordsFrom .boundary (next :: rest))
    else consFirst c (wordsFrom (mode.after c) (next :: rest))

/-- The words of a name. -/
def words (name : List Char) : List (List Char) :=
  (alphanumericPieces name).flatMap (wordsFrom .boundary)

/-- A word in small letters; a capital sigma at its end takes its final form. -/
def lowerWord : List Char → List Char
  | [] => []
  | c :: rest => (if c = 'Σ' ∧ rest = [] then ['ς'] else toLower c) ++ lowerWord rest

/-- A word with a capital in front and small letters behind. -/
def capitalize : List Char → List Char
  | [] => []
  | c :: rest => toUpper c ++ lowerWord rest

/-- The words of a name, each capitalized, without anything between them. -/
def upperCamel (name : String) : String :=
  String.ofList ((words name.toList).flatMap capitalize)

/-- The words of a name in small letters, with underscores between them. -/
def snake (name : String) : String :=
  String.ofList (['_'].intercalate ((words name.toList).map lowerWord))

end NamedSql.Text
