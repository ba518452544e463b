/-
What single lines of code say.

Only a few kinds of lines matter to whoever reads the queries back: the heads of modules,
types and functions, and the lines that are a value.  The first character behind the
indentation tells them from all other lines.

* `Item.ofLine?` — what a line says, if anything;
* `nameAfter?_append`, `ofLine?_keyword` — the name behind a keyword is read;
* `literalLine?_encode`, `tableLine?_table` — the values of query functions are read.
-/
import NamedSql.Code.Accessors
import NamedSql.Proofs.Literals

namespace NamedSql.Code

open Literal

/-- A value that a function of a query gives back. -/
inductive Value where
  | text (text : String)
  | table (table : Sql.ParameterTable)
  deriving DecidableEq, Repr

/-- What a line of code says. -/
inductive Item where
  | module (name : String)
  | type (name : String)
  | function (name : String)
  | value (value : Value)
  deriving DecidableEq, Repr

/-! ### Reading lines -/

/-- A line without the spaces in front. -/
def stripIndent (line : List Char) : List Char :=
  line.dropWhile (· = ' ')

/-- Whether a character is part of a name. -/
def isNameChar (c : Char) : Bool :=
  c.isAlphanum || c = '_'

/-- The name behind a keyword, if the line starts with the keyword. -/
def nameAfter? (keyword : String) (line : List Char) : Option String :=
  if keyword.toList.isPrefixOf line then
    some (String.ofList ((line.drop keyword.toList.length).takeWhile isNameChar))
  else none

/-- The text of a line that is a literal. -/
def literalLine? (line : List Char) : Option String :=
  match readLiteral line with
  | some (text, []) => some text
  | _ => none

/-- A parameter and its position, and what stands behind them. -/
def readEntry : List Char → Option (Sql.Parameter × List Char)
  | '(' :: rest =>
    match readLiteral rest with
    | some (name, ',' :: ' ' :: behind) =>
      match behind.dropWhile Char.isDigit with
      | ')' :: tail =>
        some ({ name, index := Nat.ofDigitChars 10 (behind.takeWhile Char.isDigit) 0 }, tail)
      | _ => none
    | _ => none
  | _ => none

/-- An entry is a literal and digits between the marks. -/
theorem readEntry_of_readLiteral {rest behind tail : List Char} {name : String}
    (hname : readLiteral rest = some (name, ',' :: ' ' :: behind))
    (hclose : behind.dropWhile Char.isDigit = ')' :: tail) :
    readEntry ('(' :: rest) =
      some ({ name, index := Nat.ofDigitChars 10 (behind.takeWhile Char.isDigit) 0 }, tail) := by
  simp only [readEntry, hname, hclose]

/-- Parameters with commas between them, up to a closing bracket at the end of the line. -/
def readEntries (line : List Char) : Option Sql.ParameterTable :=
  match readEntry line with
  | some (entry, [']']) => some [entry]
  | some (entry, ',' :: ' ' :: rest) =>
    if _h : rest.length < line.length then (readEntries rest).map (entry :: ·) else none
  | _ => none
termination_by line.length

/-- The parameter table that a line is. -/
def tableLine? : List Char → Option Sql.ParameterTable
  | '&' :: '[' :: rest => if rest = [']'] then some [] else readEntries rest
  | _ => none

/-- What a line says, without the spaces in front. -/
def Item.ofStripped? (line : List Char) : Option Item :=
  (nameAfter? "pub mod " line).map .module
    <|> (nameAfter? "pub struct " line).map .type
    <|> (nameAfter? "pub fn " line).map .function
    <|> (literalLine? line).map (.value ∘ .text)
    <|> (tableLine? line).map (.value ∘ .table)

/-- What a line says, if anything. -/
def Item.ofLine? (line : String) : Option Item :=
  ofStripped? (stripIndent line.toList)

/-! ### Names -/

theorem nameAfter?_append {keyword name : String} {c : Char} {rest : List Char}
    (hname : ∀ d ∈ name.toList, isNameChar d = true) (hc : isNameChar c = false) :
    nameAfter? keyword (keyword.toList ++ (name.toList ++ c :: rest)) = some name := by
  have hkeyword : keyword.toList.isPrefixOf (keyword.toList ++ (name.toList ++ c :: rest)) :=
    List.isPrefixOf_iff_prefix.mpr (List.prefix_append _ _)
  rw [nameAfter?, if_pos hkeyword, List.drop_left, List.takeWhile_append_of_pos hname,
    List.takeWhile_cons_of_neg (by rw [hc]; decide), List.append_nil, String.ofList_toList]

theorem not_mem_of_name {name : String} (h : ∀ c ∈ name.toList, isNameChar c = true) {c : Char}
    (hc : isNameChar c = false) : c ∉ name.toList := by
  intro hmem
  rw [h c hmem] at hc
  cases hc

section

variable {name : String} (h : ∀ c ∈ name.toList, isNameChar c = true)

include h

/-- A line of a keyword, a name and an ending says what lines with the keyword say of the name
behind it. -/
theorem ofLine?_keyword {keyword ending : String} {item : String → Item} {c : Char}
    {rest : List Char} (hindent : keyword.toList.head? ≠ some ' ') (hkeyword : keyword ≠ "")
    (hending : ending.toList = c :: rest) (hc : isNameChar c = false)
    (hread : ∀ (line : List Char) (found : String),
      nameAfter? keyword (keyword.toList ++ line) = some found →
        Item.ofStripped? (keyword.toList ++ line) = some (item found)) :
    Item.ofLine? (keyword ++ name ++ ending) = some (item name) := by
  have hline : stripIndent (keyword ++ name ++ ending).toList =
      keyword.toList ++ (name.toList ++ c :: rest) := by
    rw [String.toList_append, String.toList_append, List.append_assoc, hending]
    cases hchars : keyword.toList with
    | nil => exact absurd (String.toList_eq_nil_iff.mp hchars) hkeyword
    | cons first others =>
      rw [hchars, List.head?_cons] at hindent
      rw [List.cons_append, stripIndent,
        List.dropWhile_cons_of_neg (by simpa using hindent)]
  rw [Item.ofLine?, hline]
  exact hread _ name (nameAfter?_append h hc)

theorem ofLine?_module : Item.ofLine? ("pub mod " ++ name ++ " \x7b") = some (.module name) :=
  ofLine?_keyword h (by decide) (by decide) rfl rfl fun line found hfound => by
    rw [Item.ofStripped?, hfound]
    rfl

theorem ofLine?_type : Item.ofLine? ("pub struct " ++ name ++ ";") = some (.type name) :=
  ofLine?_keyword h (by decide) (by decide) rfl rfl fun line found hfound => by
    rw [Item.ofStripped?, hfound]
    rfl

end

/-! ### Values and other lines -/

section

variable {c : Char} {rest : List Char}

theorem nameAfter?_of_ne {keyword : String} {first : Char} {others : List Char}
    (hkeyword : keyword.toList = first :: others) (h : c ≠ first) :
    nameAfter? keyword (c :: rest) = none := by
  rw [nameAfter?, hkeyword, List.isPrefixOf, beq_false_of_ne (Ne.symm h), Bool.false_and]
  rfl

theorem ofStripped?_of_ne (h : c ≠ 'p') :
    Item.ofStripped? (c :: rest) =
      ((literalLine? (c :: rest)).map (Item.value ∘ .text)
        <|> (tableLine? (c :: rest)).map (Item.value ∘ .table)) := by
  rw [Item.ofStripped?, nameAfter?_of_ne rfl h, nameAfter?_of_ne rfl h, nameAfter?_of_ne rfl h]
  rfl

theorem literalLine?_of_ne (h : c ≠ '"') : literalLine? (c :: rest) = none := by
  rw [literalLine?, readLiteral, if_neg h]

theorem tableLine?_of_ne (h : c ≠ '&') : tableLine? (c :: rest) = none := by
  unfold tableLine?
  split
  case h_1 heq => exact absurd (List.cons.inj heq).1 h
  case h_2 => rfl

theorem ofLine?_of_ne {line : String} (hline : line.toList = c :: rest) (h : c ≠ ' ') :
    Item.ofLine? line = Item.ofStripped? (c :: rest) := by
  rw [Item.ofLine?, hline, stripIndent, List.dropWhile_cons_of_neg (by simpa using h)]

/-- A line that starts with no keyword, no quote and no reference says nothing. -/
theorem ofLine?_eq_none {line : String} (hline : line.toList = c :: rest)
    (h : c ∉ [' ', 'p', '"', '&']) : Item.ofLine? line = none := by
  simp only [List.mem_cons, List.not_mem_nil, or_false, not_or] at h
  obtain ⟨hspace, hkeyword, hquote, hreference⟩ := h
  rw [ofLine?_of_ne hline hspace, ofStripped?_of_ne hkeyword, literalLine?_of_ne hquote,
    tableLine?_of_ne hreference]
  rfl

end

theorem toList_encode (s : String) :
    (encode s).toList = '"' :: (s.toList.flatMap escape ++ ['"']) := by
  rw [encode, String.toList_ofList]
  rfl

/-- What a line that starts with a literal says hangs on what stands behind the literal. -/
theorem ofLine?_literal_append (s behind : String) :
    Item.ofLine? (encode s ++ behind) =
      if behind = "" then some (.value (.text s)) else none := by
  have hline : (encode s ++ behind).toList =
      '"' :: (s.toList.flatMap escape ++ ['"'] ++ behind.toList) := by
    rw [String.toList_append, toList_encode]
    rfl
  have hread := readLiteral_encode s behind.toList
  rw [← String.toList_append, hline] at hread
  rw [ofLine?_of_ne hline (by decide), ofStripped?_of_ne (by decide),
    tableLine?_of_ne (by decide), literalLine?, hread]
  by_cases hbehind : behind = ""
  · subst hbehind
    rfl
  · rw [if_neg hbehind]
    cases hchars : behind.toList with
    | nil => exact absurd (String.toList_eq_nil_iff.mp hchars) hbehind
    | cons c rest => rfl

theorem ofLine?_literal (s : String) : Item.ofLine? (encode s) = some (.value (.text s)) := by
  have hline := ofLine?_literal_append s ""
  rw [String.append_empty] at hline
  exact hline

section

variable (n : Nat) {c : Char} (h : c.isDigit = false) (rest : List Char)

include h

/-- The digits of a number go on to the first character that is no digit. -/
theorem takeWhile_toDigits :
    (Nat.toDigits 10 n ++ c :: rest).takeWhile Char.isDigit = Nat.toDigits 10 n := by
  rw [List.takeWhile_append_of_pos fun d hd =>
      Nat.isDigit_of_mem_toDigits (by decide) (by decide) hd,
    List.takeWhile_cons_of_neg (by rw [h]; decide), List.append_nil]

theorem dropWhile_toDigits :
    (Nat.toDigits 10 n ++ c :: rest).dropWhile Char.isDigit = c :: rest := by
  rw [List.dropWhile_append_of_pos fun d hd =>
      Nat.isDigit_of_mem_toDigits (by decide) (by decide) hd,
    List.dropWhile_cons_of_neg (by rw [h]; decide)]

end

theorem readEntry_parameterEntry (parameter : Sql.Parameter) (rest : List Char) :
    readEntry ((parameterEntry parameter).toList ++ rest) = some (parameter, rest) := by
  have hentry : (parameterEntry parameter).toList ++ rest =
      '(' :: ((encode parameter.name).toList ++
        ',' :: ' ' :: (Nat.toDigits 10 parameter.index ++ ')' :: rest)) := by
    simp [parameterEntry]
  rw [hentry, readEntry_of_readLiteral (readLiteral_encode _ _) (dropWhile_toDigits _ rfl _),
    takeWhile_toDigits _ rfl, Nat.ofDigitChars_toDigits (by decide) (by decide)]

theorem readEntries_table (first : Sql.Parameter) (others : Sql.ParameterTable) :
    readEntries ([',', ' '].intercalate
        ((first :: others).map fun parameter => (parameterEntry parameter).toList) ++ [']']) =
      some (first :: others) := by
  induction others generalizing first with
  | nil =>
    rw [List.map_singleton, List.intercalate_singleton, readEntries, readEntry_parameterEntry]
    rfl
  | cons second others ih =>
    have hothers := ih second
    rw [List.map_cons] at hothers
    rw [List.map_cons, List.map_cons, List.intercalate_cons_cons, List.append_assoc,
      List.append_assoc, readEntries, readEntry_parameterEntry]
    simp only [List.cons_append, List.nil_append]
    -- the comma alone makes what is left shorter
    rw [dif_pos (by simp; omega), hothers, Option.map_some]

theorem ofLine?_table (table : Sql.ParameterTable) :
    Item.ofLine? ("&[" ++ ", ".intercalate (table.map parameterEntry) ++ "]") =
      some (.value (.table table)) := by
  have hline : ("&[" ++ ", ".intercalate (table.map parameterEntry) ++ "]").toList =
      '&' :: ('[' :: ([',', ' '].intercalate
        (table.map fun parameter => (parameterEntry parameter).toList) ++ [']'])) := by
    rw [String.toList_append, String.toList_append, String.toList_intercalate, List.map_map]
    rfl
  rw [ofLine?_of_ne hline (by decide), ofStripped?_of_ne (by decide),
    literalLine?_of_ne (by decide), tableLine?]
  cases table with
  | nil => rfl
  | cons first others =>
    have hentries := readEntries_table first others
    rw [if_neg, hentries]
    · rfl
    · -- a bracket alone is read as no entries
      intro hempty
      rw [hempty, readEntries] at hentries
      cases hentries

end NamedSql.Code
