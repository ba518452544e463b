/-
Lines of code, read one by one.

A line is documentation or code.  Of a line of code the string literals are emptied, and what they
hold is set aside: what is left shows how the line is built, whatever texts it carries.

* `CodeLine` — a line that is read;
* `codeLines` — the lines of a piece of code, but for empty ones and for indentation;
* `ReadsAs` — what a stretch of a line is read as, whatever stands behind it;
* `readsAs_plain`, `readsAs_encode` — stretches without quotes, and literals;
* `shows_block`, `shows_function` — how the pieces of a layout are read.
-/
import Mathlib
import NamedSql.Proofs.CatalogLines
import NamedSql.Proofs.CodeLines

namespace NamedSql.Code

open Literal

/-- A stretch of a line of code. -/
structure Stretch where
  /-- The stretch, with nothing between the quotes of its literals. -/
  shown : String
  /-- What its literals hold. -/
  literals : List String
  deriving DecidableEq, Repr

/-- A line that is not empty, without its indentation. -/
inductive CodeLine where
  | documentation (text : String)
  | code (line : Stretch)
  deriving DecidableEq, Repr

namespace Stretch

/-- A stretch without literals. -/
def plain (text : String) : Stretch :=
  { shown := text, literals := [] }

/-- A literal. -/
def literal (text : String) : Stretch :=
  { shown := "\"\"", literals := [text] }

instance : Append Stretch where
  append front behind :=
    { shown := front.shown ++ behind.shown, literals := front.literals ++ behind.literals }

/-- The stretch that characters are, if every quote in them opens or closes a literal. -/
def read? (line : List Char) : Option Stretch :=
  match line with
  | [] => some (plain "")
  | c :: rest =>
    if c = '"' then
      match readLiteral (c :: rest) with
      | some (text, behind) =>
        if _h : behind.length ≤ rest.length then (read? behind).map (literal text ++ ·) else none
      | none => none
    else (read? rest).map (plain (String.singleton c) ++ ·)
termination_by line.length

end Stretch

open Stretch

/-- A line without its indentation: documentation, or code if its literals end in it. -/
def CodeLine.ofStripped? (line : List Char) : Option CodeLine :=
  if "///".toList.isPrefixOf line then
    let behind := line.drop 3
    some (.documentation (String.ofList (if behind.head? = some ' ' then behind.tail else behind)))
  else (read? line).map .code

/-- What a line is read as, if it is not empty. -/
def CodeLine.ofLine? (line : String) : Option (Option CodeLine) :=
  let stripped := stripIndent line.toList
  if stripped = [] then none else some (ofStripped? stripped)

/-- What the lines that are not empty are read as. -/
def codeLines (code : String) : List (Option CodeLine) :=
  ((code.toList.splitOn '\n').map String.ofList).filterMap CodeLine.ofLine?

/-! ### Stretches -/

/-- Characters are read as a stretch, whatever stands behind them. -/
def ReadsAs (text : String) (stretch : Stretch) : Prop :=
  ∀ rest, read? (text.toList ++ rest) = (read? rest).map (stretch ++ ·)

namespace Stretch

theorem append_def (front behind : Stretch) :
    front ++ behind =
      { shown := front.shown ++ behind.shown, literals := front.literals ++ behind.literals } :=
  rfl

theorem append_assoc (front middle behind : Stretch) :
    front ++ middle ++ behind = front ++ (middle ++ behind) := by
  simp only [append_def, String.append_assoc, List.append_assoc]

theorem plain_append (front behind : String) :
    plain (front ++ behind) = plain front ++ plain behind :=
  rfl

theorem plain_empty_append (stretch : Stretch) : plain "" ++ stretch = stretch := by
  rw [append_def, plain, String.empty_append, List.nil_append]

theorem append_plain_empty (stretch : Stretch) : stretch ++ plain "" = stretch := by
  rw [append_def, plain, String.append_empty, List.append_nil]

end Stretch

theorem ReadsAs.append {front behind : String} {stretch next : Stretch}
    (h : ReadsAs front stretch) (hnext : ReadsAs behind next) :
    ReadsAs (front ++ behind) (stretch ++ next) := by
  intro rest
  rw [String.toList_append, List.append_assoc, h, hnext, Option.map_map]
  exact congrArg (Option.map · _) (funext fun more => (Stretch.append_assoc _ _ more).symm)

/-- What has no quotes is read as it is. -/
theorem readsAs_plain (text : String) (h : '"' ∉ text.toList) : ReadsAs text (plain text) := by
  intro rest
  -- by induction on the characters of the text, none of which opens a literal
  obtain ⟨chars, rfl⟩ : ∃ chars, text = String.ofList chars := ⟨_, String.ofList_toList.symm⟩
  rw [String.toList_ofList] at h ⊢
  induction chars with
  | nil =>
    have hsame : (plain (String.ofList []) ++ ·) = id := funext plain_empty_append
    rw [List.nil_append, hsame, Option.map_id, id]
  | cons c others ih =>
    rw [List.mem_cons, not_or] at h
    have hfront : String.ofList (c :: others) = String.singleton c ++ String.ofList others := by
      rw [String.singleton_eq_ofList, ← String.ofList_append, List.singleton_append]
    rw [List.cons_append, Stretch.read?, if_neg (Ne.symm h.1), ih h.2, Option.map_map, hfront,
      plain_append]
    exact congrArg (Option.map · _) (funext fun more => (Stretch.append_assoc _ _ more).symm)

/-- A literal is read as a literal, whatever it holds. -/
theorem readsAs_encode (s : String) : ReadsAs (encode s) (literal s) := by
  intro rest
  have hline : (encode s).toList ++ rest = '"' :: (s.toList.flatMap escape ++ '"' :: rest) := by
    rw [toList_encode, List.cons_append, List.append_assoc, List.singleton_append]
  have hread := readLiteral_encode s rest
  rw [hline] at hread ⊢
  rw [Stretch.read?, if_pos rfl, hread]
  dsimp only
  -- without its opening quote alone the line is shorter
  rw [dif_pos (by simp; omega)]

theorem ReadsAs.read?_eq {text : String} {stretch : Stretch} (h : ReadsAs text stretch) :
    read? text.toList = some stretch := by
  have hline := h []
  rw [List.append_nil, Stretch.read?, Option.map_some, append_plain_empty] at hline
  exact hline

/-- Text between stretches without quotes. -/
theorem readsAs_between (front : String) {middle : String} (behind : String)
    (hfront : '"' ∉ front.toList) (hmiddle : '"' ∉ middle.toList)
    (hbehind : '"' ∉ behind.toList) :
    ReadsAs (front ++ middle ++ behind) (plain (front ++ middle ++ behind)) := by
  refine readsAs_plain _ ?_
  rw [String.toList_append, String.toList_append, List.mem_append, List.mem_append, not_or, not_or]
  exact ⟨⟨hfront, hmiddle⟩, hbehind⟩

/-! ### Lines -/

/-- What lines show. -/
def shows (lines : Lines) : List (Option CodeLine) :=
  lines.filterMap CodeLine.ofLine?

/-- A line of code by itself. -/
def codeLine (text : String) : CodeLine :=
  .code (plain text)

/-- Whether a line starts with code. -/
def startsCode (line : String) : Bool :=
  line.toList.head?.any (· ≠ ' ') && !"///".toList.isPrefixOf line.toList

/-- What starts with another character than a space and a slash starts with code. -/
theorem startsCode_append {front behind : String} {c : Char} {rest : List Char}
    (hfront : front.toList = c :: rest) (hc : c ∉ [' ', '/']) :
    startsCode (front ++ behind) = true := by
  simp only [List.mem_cons, List.not_mem_nil, or_false, not_or] at hc
  have hdocumentation : "///".toList.isPrefixOf (c :: (rest ++ behind.toList)) = false := by
    show ('/' == c && _) = false
    rw [beq_false_of_ne (Ne.symm hc.2), Bool.false_and]
  rw [startsCode, String.toList_append, hfront, List.cons_append, hdocumentation]
  simpa using hc.1

theorem shows_singleton {text : String} {stretch : Stretch} (hstart : startsCode text = true)
    (h : ReadsAs text stretch) : shows [text] = [some (.code stretch)] := by
  rw [startsCode, Bool.and_eq_true, Bool.not_eq_true'] at hstart
  obtain ⟨hfirst, hdocumentation⟩ := hstart
  cases hchars : text.toList with
  | nil =>
    rw [hchars] at hfirst
    cases hfirst
  | cons c rest =>
    rw [hchars] at hfirst
    -- neither indentation nor documentation, so all of the line is read as a stretch
    have hstripped : stripIndent text.toList = text.toList := by
      rw [hchars, stripIndent, List.dropWhile_cons_of_neg]
      simpa using hfirst
    have hcode : CodeLine.ofStripped? text.toList = some (.code stretch) := by
      rw [CodeLine.ofStripped?, hdocumentation, if_neg Bool.false_ne_true, h.read?_eq]
      rfl
    have hline : CodeLine.ofLine? text = some (some (.code stretch)) := by
      rw [CodeLine.ofLine?, hstripped, hcode, hchars]
      exact if_neg (List.cons_ne_nil c rest)
    rw [shows, List.filterMap_cons_some hline, List.filterMap_nil]

theorem shows_plain (text : String) (hstart : startsCode text = true) (h : '"' ∉ text.toList) :
    shows [text] = [some (codeLine text)] :=
  shows_singleton hstart (readsAs_plain text h)

theorem shows_literal (s : String) : shows [encode s] = [some (.code (literal s))] := by
  have hstart : startsCode (encode s ++ "") = true :=
    startsCode_append (toList_encode s) (by decide)
  rw [String.append_empty] at hstart
  exact shows_singleton hstart (readsAs_encode s)

/-- A line with a name in it. -/
theorem shows_named {front name behind : String} {c : Char} {rest : List Char}
    (hname : ∀ d ∈ name.toList, isNameChar d = true) (hfront : front.toList = c :: rest)
    (hc : c ∉ [' ', '/']) (hquote : '"' ∉ front.toList) (hbehind : '"' ∉ behind.toList) :
    shows [front ++ name ++ behind] = [some (codeLine (front ++ name ++ behind))] := by
  have hstart : startsCode (front ++ name ++ behind) = true := by
    rw [String.append_assoc]
    exact startsCode_append hfront hc
  exact shows_singleton hstart
    (readsAs_between front behind hquote (not_mem_of_name hname (by decide)) hbehind)

/-! ### Layouts -/

theorem overlooks_ofCodeLine? : Overlooks CodeLine.ofLine? where
  empty := rfl
  indentation line := by
    rw [CodeLine.ofLine?, String.toList_append]
    rfl

@[simp]
theorem shows_append (lines more : Lines) : shows (lines ++ more) = shows lines ++ shows more :=
  List.filterMap_append

@[simp]
theorem shows_separated (pieces : List Lines) : shows (separated pieces) = pieces.flatMap shows :=
  overlooks_ofCodeLine?.filterMap_separated pieces

theorem ofLine?_documentation (line : String) :
    CodeLine.ofLine? ("///" ++ if line.isEmpty then "" else " " ++ line) =
      some (some (.documentation line)) := by
  -- behind an empty line of documentation there is no space
  by_cases hempty : line.isEmpty = true
  · rw [if_pos hempty, String.isEmpty_iff.mp hempty]
    rfl
  · have hchars : ("///" ++ (" " ++ line)).toList = '/' :: '/' :: '/' :: ' ' :: line.toList := by
      rw [String.toList_append, String.toList_append]
      rfl
    have hline : CodeLine.ofLine? ("///" ++ (" " ++ line)) =
        some (some (.documentation (String.ofList line.toList))) := by
      rw [CodeLine.ofLine?, hchars]
      rfl
    rw [if_neg hempty, hline, String.ofList_toList]

/-- Documentation shows the lines of its text. -/
theorem shows_docComment (s : String) :
    shows (docComment s) = ((textLines s).map .documentation).map some := by
  rw [shows, docComment_eq, List.filterMap_map, List.map_map, ← List.filterMap_eq_map]
  exact List.filterMap_congr fun line _ => ofLine?_documentation line

theorem shows_block {head : String} (h : '\n' ∉ head.toList) (body : Lines) :
    shows (block head body) =
      shows [head ++ " \x7b"] ++ shows body ++ [some (codeLine "\x7d")] := by
  have hclosing : shows ["\x7d"] = [some (codeLine "\x7d")] := shows_plain _ (by decide) (by decide)
  rw [← hclosing]
  exact overlooks_ofCodeLine?.filterMap_block h body

/-- A function shows its documentation, its head, its body and the closing brace. -/
theorem shows_function {doc signature : String} (body : Lines) (hdoc : '\n' ∉ doc.toList)
    (hline : '\n' ∉ signature.toList) (hquote : '"' ∉ signature.toList) :
    shows (function doc signature body) =
      [some (.documentation doc), some (codeLine ("pub fn " ++ signature ++ " \x7b"))]
        ++ shows body ++ [some (codeLine "\x7d")] := by
  have hhead : '\n' ∉ ("pub fn " ++ signature).toList :=
    not_mem_toList_append.mpr ⟨by decide, hline⟩
  have hstart : startsCode ("pub fn " ++ signature ++ " \x7b") = true := by
    rw [String.append_assoc]
    exact startsCode_append rfl (by decide)
  rw [function, shows_append, shows_docComment, textLines_of_not_mem hdoc, shows_block hhead,
    shows_singleton hstart (readsAs_between "pub fn " " \x7b" (by decide) hquote (by decide))]
  rfl

end NamedSql.Code
