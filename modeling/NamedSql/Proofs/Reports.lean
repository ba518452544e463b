/-
Reports of open regions point at their opening delimiters.

A scan error counts bytes; a report counts lines and the characters in them.  Both speak of the
same character: the first one of the delimiter that opens the region.  It is no white space, so it
is there in the line that is shown.

* `namedPlace?` — the line and the column in the header of a report;
* `Unclosed.openers`, `exists_opener` — the characters that open regions can start with;
* `IsTrimmed` — a line without the white space at its end;
* `namedPlace?_render`, `markedLine_infix_render` — what a report shows of a place;
* `report_points_at_opener` — it is the place of the delimiter.
-/
import Mathlib
import NamedSql.Proofs.CatalogLines
import NamedSql.Proofs.CodeLines
import NamedSql.Proofs.OpenRegions
import NamedSql.Proofs.SourceLines
import NamedSql.Query.Query

namespace NamedSql

/-! ### Opening characters -/

namespace Sql

/-- The characters that what is left open can start with. -/
def Unclosed.openers : Unclosed → List Char
  | .stringLiteral => ['\'', 'E', 'e']
  | .quotedIdentifier => ['"']
  | .blockComment => ['/']
  | .dollarQuote => ['$']

theorem Opening.exists_opener {prev : Option UInt8} {kind : RegionKind} {what : Unclosed}
    {opening : List UInt8} (h : Opening prev kind opening) (hwhat : kind.unclosed? = some what) :
    ∃ c b tail, opening = b :: tail ∧ Utf8.encode (String.singleton c) = [b] ∧
      c ∈ what.openers := by
  -- the opening of each kind starts with an ASCII character
  cases h with
  | string =>
    obtain rfl : .stringLiteral = what := Option.some.inj hwhat
    exact ⟨'\'', Byte.quote, [], rfl, by decide, by decide⟩
  | quotedIdentifier =>
    obtain rfl : .quotedIdentifier = what := Option.some.inj hwhat
    exact ⟨'"', Byte.doubleQuote, [], rfl, by decide, by decide⟩
  | escapeString he =>
    obtain rfl : .stringLiteral = what := Option.some.inj hwhat
    rcases he with rfl | rfl
    · exact ⟨'E', Byte.upperE, [Byte.quote], rfl, by decide, by decide⟩
    · exact ⟨'e', Byte.lowerE, [Byte.quote], rfl, by decide, by decide⟩
  | lineComment => cases hwhat
  | blockComment =>
    obtain rfl : .blockComment = what := Option.some.inj hwhat
    exact ⟨'/', Byte.slash, [Byte.star], rfl, by decide, by decide⟩
  | @dollarQuoted tag =>
    obtain rfl : .dollarQuote = what := Option.some.inj hwhat
    exact ⟨'$', Byte.dollar, tag ++ [Byte.dollar], rfl, by decide, by decide⟩

/-- A text that leaves a region open from its front on starts with such a character. -/
theorem exists_opener {prev : Option UInt8} {what : Unclosed} {s : String}
    (h : IsOpen prev what (Utf8.encode s)) :
    ∃ c rest, s.toList = c :: rest ∧ c ∈ what.openers := by
  obtain ⟨kind, opening, behind, hsplit, hopening, hwhat, -⟩ := h
  have hascii := hopening.lt_of_mem
  obtain ⟨c, b, tail, rfl, hc, hmem⟩ := hopening.exists_opener hwhat
  -- the character is one byte, so what stands behind it is a text
  have htext : Utf8.IsText ([] ++ b :: (tail ++ behind)) := ⟨s, hsplit⟩
  obtain ⟨rest, hrest⟩ := (htext.cut (hascii b List.mem_cons_self)).2
  have hs : s = String.singleton c ++ rest := by
    refine Utf8.encode_injective ?_
    rw [hsplit, Utf8.encode_append, hc, hrest]
    rfl
  refine ⟨c, rest.toList, ?_, hmem⟩
  rw [hs, String.toList_append, String.toList_singleton]
  rfl

end Sql

namespace Report

open Sql

/-! ### Trimmed lines -/

/-- A line without the white space at its end. -/
def IsTrimmed (text shown : List Char) : Prop :=
  (∃ blanks, text = shown ++ blanks ∧ ∀ c ∈ blanks, Text.isBlank c = true) ∧
    ∀ c, shown.getLast? = some c → Text.isBlank c = false

theorem isTrimmed_trimEnd (text : List Char) : IsTrimmed text (Text.trimEnd text) := by
  constructor
  · refine ⟨(text.reverse.takeWhile Text.isBlank).reverse, ?_, fun c hc => ?_⟩
    · rw [Text.trimEnd, ← List.reverse_append, List.takeWhile_append_dropWhile,
        List.reverse_reverse]
    · exact List.mem_takeWhile_imp (List.mem_reverse.mp hc)
  · intro c hc
    have hfirst := List.head?_dropWhile_not Text.isBlank text.reverse
    rw [Text.trimEnd, List.getLast?_reverse] at hc
    rw [hc] at hfirst
    exact hfirst

/-- Trimming takes nothing away up to a character that is no white space. -/
theorem IsTrimmed.prefix_of_not_isBlank {left right shown : List Char} {c : Char}
    (h : IsTrimmed (left ++ c :: right) shown) (hc : Text.isBlank c = false) :
    left ++ [c] <+: shown := by
  obtain ⟨⟨blanks, hsplit, hblanks⟩, -⟩ := h
  -- only blanks are taken away, so the character stays, and all in front of it
  have hmem : c ∉ blanks := fun hmem => by
    rw [hblanks c hmem] at hc
    cases hc
  rcases List.append_eq_append_iff.mp hsplit with ⟨kept, rfl, hkept⟩ | ⟨more, -, rfl⟩
  · cases kept with
    | nil =>
      rw [List.nil_append] at hkept
      rw [← hkept] at hmem
      exact absurd List.mem_cons_self hmem
    | cons d kept =>
      obtain ⟨rfl, -⟩ := List.cons.inj hkept
      exact ⟨kept, by simp⟩
  · exact absurd (List.mem_append_right more List.mem_cons_self) hmem

/-! ### Reading reports -/

/-- The first line of a report. -/
def firstLine (report : String) : String :=
  String.ofList (report.toList.takeWhile (· ≠ '\n'))

/-- The line and the column that the header of a report names behind the path. -/
def namedPlace? (path report : String) : Option (Nat × Nat) :=
  let header := (report.toList.dropWhile (· ≠ '\n')).tail.dropWhile (· = ' ')
  match header.dropPrefix? ("╭─[ " ++ path ++ ":").toList with
  | none => none
  | some numbers =>
    match numbers.dropWhile Char.isDigit with
    | ':' :: behind =>
      match behind.dropWhile Char.isDigit with
      | ' ' :: ']' :: '\n' :: _ =>
        some (Nat.ofDigitChars 10 (numbers.takeWhile Char.isDigit) 0,
          Nat.ofDigitChars 10 (behind.takeWhile Char.isDigit) 0)
      | _ => none
    | _ => none

/-- The place is named by the digits behind the path and those behind the colon. -/
theorem namedPlace?_of_header {path report : String} {numbers behind below : List Char}
    (hheader : ((report.toList.dropWhile (· ≠ '\n')).tail.dropWhile (· = ' ')).dropPrefix?
      ("╭─[ " ++ path ++ ":").toList = some numbers)
    (hcolon : numbers.dropWhile Char.isDigit = ':' :: behind)
    (hclose : behind.dropWhile Char.isDigit = ' ' :: ']' :: '\n' :: below) :
    namedPlace? path report =
      some (Nat.ofDigitChars 10 (numbers.takeWhile Char.isDigit) 0,
        Nat.ofDigitChars 10 (behind.takeWhile Char.isDigit) 0) := by
  simp only [namedPlace?, hheader, hcolon, hclose]

/-- A line as it is drawn, with a mark below the character behind `left`. -/
def markedLine (number : Nat) (shown left : List Char) : String :=
  s!" {number} │ " ++ String.ofList (drawFrom 0 shown) ++ "\n"
    ++ fill ((toString number).length + 2) ' ' ++ "│ " ++ fill (cellsFrom 0 left) ' ' ++ "┬"

/-- The header starts with a corner behind the spaces. -/
theorem toList_corner (path : String) :
    ("╭─[ " ++ path ++ ":").toList = '╭' :: ("─[ ".toList ++ path.toList ++ [':']) := by
  rw [String.toList_append, String.toList_append]
  rfl

theorem namedPlace?_empty (path : String) : namedPlace? path "" = none := by
  rw [namedPlace?, toList_corner]
  rfl

section

variable (path message label : String) {source : String}
  (place : Place (sourceLines source.toList))

theorem render_place :
    ∃ rest, render path source { message, offset := place.offset, label } =
      "Error: " ++ message ++ "\n"
        ++ fill ((toString place.line).length + 2) ' '
        ++ ("╭─[ " ++ path ++ ":") ++ toString place.line ++ ":" ++ toString place.column
        ++ " ]\n"
        ++ fill ((toString place.line).length + 2) ' ' ++ "│\n"
        ++ markedLine place.line (Text.trimEnd place.text)
            ((Text.trimEnd place.text).take place.left.length)
        ++ rest := by
  apply Exists.intro
  unfold render
  dsimp only
  rw [locate_place place]
  simp only [markedLine, String.append_assoc]
  rfl

/-- The characters of a report up to the end of its header. -/
theorem toList_render_place :
    ∃ indent below, (render path source { message, offset := place.offset, label }).toList =
      ("Error: " ++ message).toList ++ '\n' :: (List.replicate indent ' '
        ++ (("╭─[ " ++ path ++ ":").toList ++ (Nat.toDigits 10 place.line
        ++ ':' :: (Nat.toDigits 10 place.column ++ ' ' :: ']' :: '\n' :: below)))) := by
  obtain ⟨rest, hrender⟩ := render_place path message label place
  refine ⟨(toString place.line).length + 2, ?_⟩
  apply Exists.intro
  rw [hrender]
  simp only [String.toList_append, Nat.toString_eq_repr, Nat.toList_repr, fill,
    String.toList_ofList, List.append_assoc]
  rfl

section

variable {message} (hmessage : '\n' ∉ message.toList)

include hmessage

theorem ne_newline_of_message : ∀ c ∈ ("Error: " ++ message).toList, decide (c ≠ '\n') = true := by
  have hfirst : '\n' ∉ ("Error: " ++ message).toList :=
    Code.not_mem_toList_append.mpr ⟨by decide, hmessage⟩
  intro c hc
  exact decide_eq_true fun hnewline => hfirst (hnewline ▸ hc)

theorem firstLine_render :
    firstLine (render path source { message, offset := place.offset, label }) =
      "Error: " ++ message := by
  obtain ⟨indent, below, hrender⟩ := toList_render_place path message label place
  rw [firstLine, hrender, List.takeWhile_append_of_pos (ne_newline_of_message hmessage),
    List.takeWhile_cons_of_neg (by decide), List.append_nil, String.ofList_toList]

/-- The header names the line and the column of the place. -/
theorem namedPlace?_render :
    namedPlace? path (render path source { message, offset := place.offset, label }) =
      some (place.line, place.column) := by
  obtain ⟨indent, below, hrender⟩ := toList_render_place path message label place
  have hspaces : ∀ c ∈ List.replicate indent ' ', decide (c = ' ') = true := by
    intro c hc
    rw [List.eq_of_mem_replicate hc]
    rfl
  have hheader (numbers : List Char) :
      (List.replicate indent ' ' ++ (("╭─[ " ++ path ++ ":").toList ++ numbers)).dropWhile
          (· = ' ') = ("╭─[ " ++ path ++ ":").toList ++ numbers := by
    rw [List.dropWhile_append_of_pos hspaces, toList_corner]
    exact List.dropWhile_cons_of_neg (by decide)
  have hnumbers :
      ((((render path source { message, offset := place.offset, label }).toList.dropWhile
        (· ≠ '\n')).tail.dropWhile (· = ' ')).dropPrefix? ("╭─[ " ++ path ++ ":").toList) =
      some (Nat.toDigits 10 place.line ++ ':' ::
        (Nat.toDigits 10 place.column ++ ' ' :: ']' :: '\n' :: below)) := by
    rw [hrender, List.dropWhile_append_of_pos (ne_newline_of_message hmessage),
      List.dropWhile_cons_of_neg (by decide), List.tail_cons, hheader,
      List.dropPrefix?_append_of_beq _ BEq.rfl]
  rw [namedPlace?_of_header hnumbers (Code.dropWhile_toDigits _ rfl _)
      (Code.dropWhile_toDigits _ rfl _),
    Code.takeWhile_toDigits _ rfl, Code.takeWhile_toDigits _ rfl,
    Nat.ofDigitChars_toDigits (by decide) (by decide),
    Nat.ofDigitChars_toDigits (by decide) (by decide)]

end

/-- The line of the place is shown, with the mark below its character. -/
theorem markedLine_infix_render (hshows : place.left <+: Text.trimEnd place.text) :
    (markedLine place.line (Text.trimEnd place.text) place.left).toList <:+:
      (render path source { message, offset := place.offset, label }).toList := by
  obtain ⟨rest, hrender⟩ := render_place path message label place
  rw [hrender, ← List.prefix_iff_eq_take.mp hshows, String.toList_append, String.toList_append]
  exact List.infix_append _ _ _

end

/-! ### Reports of scan errors -/

theorem message_eq (error : ScanError) :
    error.message = "unterminated " ++ error.what.description ++ " starting at byte "
      ++ toString error.span.offset :=
  rfl

theorem newline_not_mem_message (error : ScanError) : '\n' ∉ error.message.toList := by
  have hdescription : '\n' ∉ error.what.description.toList := by
    cases error.what <;> decide
  have hoffset : '\n' ∉ (toString error.span.offset).toList :=
    Code.not_mem_toString (by decide) _
  rw [message_eq, Code.not_mem_toList_append, Code.not_mem_toList_append,
    Code.not_mem_toList_append]
  exact ⟨⟨⟨by decide, hdescription⟩, by decide⟩, hoffset⟩

theorem not_isBlank_opener {what : Unclosed} {c : Char} (h : c ∈ what.openers) :
    Text.isBlank c = false := by
  have hopeners : ∀ what : Unclosed, what.openers.all (fun c => !Text.isBlank c) = true := by
    rintro (_ | _ | _ | _) <;> decide
  simpa using List.all_eq_true.mp (hopeners what) c h

/-- The error of a text has a place in its lines. -/
theorem exists_place_of_error {source : String} {error : ScanError}
    (h : scan source = .error error) :
    ∃ place : Place (sourceLines source.toList), place.offset = error.span.offset ∧
      place.char ∈ error.what.openers ∧ IsOpen none error.what (Utf8.encode place.behind) := by
  obtain ⟨before, behind, -, hsplit, hspan, hopen, -⟩ := exists_cut_of_error h
  obtain ⟨c, rest, hbehind, hc⟩ := exists_opener hopen
  have hflatten : (sourceLines source.toList).flatten = before.toList ++ c :: rest := by
    rw [(linesOf_sourceLines source.toList).flatten_eq, hsplit, String.toList_append, hbehind]
  obtain ⟨place, hchar, hfront, hplace⟩ := exists_place hflatten
  refine ⟨place, ?_, hchar ▸ hc, ?_⟩
  · rw [Place.offset, hfront, hspan]
  · rw [hplace, ← hbehind, String.ofList_toList]
    exact hopen

/-- **Reports of open regions point at their opening delimiters.**  Whatever the content of a query
file is that does not scan, and whatever its path is, the header of the report names the line and
the column of a character.  In front of it are as many bytes as the error says.  It is the first
one of a delimiter of the kind that the message names, and nothing closes the region that opens
there.  It also stands in the part of its line that is shown, with a mark below it. -/
theorem report_points_at_opener (compiler : Compiler) (file : QueryFile) {source : String}
    {error : ScanError} (h : scan source = .error error) :
    ∃ query, Query.ofSource compiler file source = .error query ∧ query.report ≠ "" ∧
      ∃ (lines : List (List Char)) (place : Place lines) (shown : List Char),
        (∀ other, LinesOf source.toList other ↔ other = lines) ∧
        namedPlace? file.relativePath query.report = some (place.line, place.column) ∧
        place.offset = error.span.offset ∧
        firstLine query.report = "Error: unterminated " ++ error.what.description
          ++ " starting at byte " ++ toString error.span.offset ∧
        place.char ∈ error.what.openers ∧ IsOpen none error.what (Utf8.encode place.behind) ∧
        IsTrimmed place.text shown ∧ place.left ++ [place.char] <+: shown ∧
        (markedLine place.line shown place.left).toList <:+: query.report.toList := by
  obtain ⟨place, hoffset, hchar, hopen⟩ := exists_place_of_error h
  have hquery : Query.ofSource compiler file source =
      .error { relativePath := file.relativePath, source, error } := by
    rw [Query.ofSource, compile_eq_error_iff.mpr h]
  -- the report is about the byte of the error, and that is the byte of the place
  obtain ⟨label, hreport⟩ : ∃ label,
      ({ relativePath := file.relativePath, source, error } : MalformedQuery).report =
        render file.relativePath source
          { message := error.message, offset := place.offset, label } := by
    rw [hoffset]
    exact ⟨_, rfl⟩
  have hmessage := newline_not_mem_message error
  have hheader := namedPlace?_render file.relativePath label place hmessage
  have hshown := isTrimmed_trimEnd place.text
  have hshows := hshown.prefix_of_not_isBlank (not_isBlank_opener hchar)
  refine ⟨_, hquery, ?_, sourceLines source.toList, place, Text.trimEnd place.text,
    fun other => linesOf_iff, ?_, hoffset, ?_, hchar, hopen, hshown, hshows, ?_⟩
  · intro hempty
    rw [← hreport, hempty, namedPlace?_empty] at hheader
    cases hheader
  · rw [hreport, hheader]
  · have hstart : "Error: " ++ "unterminated " = "Error: unterminated " := rfl
    rw [hreport, firstLine_render file.relativePath label place hmessage, message_eq, ← hstart]
    simp only [String.append_assoc]
  · rw [hreport]
    exact markedLine_infix_render _ _ _ place ((List.prefix_append _ _).trans hshows)

/-- A query with two kinds of line ends in front of an open escape string. -/
def openQuery : MalformedQuery where
  relativePath := "users/broken.sql"
  source := "SELECT 'é',\r\n\u2028\tE'ab\n"
  error := { what := .stringLiteral, span := { offset := 18, length := 5 } }

/-- The file of this query. -/
def openFile : QueryFile where
  path := "/q/users/broken.sql"
  relativePath := openQuery.relativePath
  name := { group := "Users", accessor := "Broken", key := "UsersBroken" }

theorem report_points_at_escape_string :
    sourceLines openQuery.source.toList =
        ["SELECT 'é',\r\n".toList, "\u2028".toList, "\tE'ab\n".toList, []] ∧
      ∃ place : Place (sourceLines openQuery.source.toList),
        Query.ofSource .standard openFile openQuery.source = .error openQuery ∧
        namedPlace? openQuery.relativePath openQuery.report = some (3, 2) ∧
        place.line = 3 ∧ place.column = 2 ∧ place.offset = 18 ∧
        place.char ∈ ['\'', 'E', 'e'] := by
  have herror : scan openQuery.source = .error openQuery.error := by
    cbv
  have hquery : Query.ofSource .standard openFile openQuery.source = .error openQuery := by
    rw [Query.ofSource, compile_eq_error_iff.mpr herror]
    rfl
  have hlocated : locate openQuery.source 18 =
      { line := 2, column := 1, text := "\tE'ab\n".toList } := by
    cbv
  obtain ⟨query, hfails, -, lines, place, shown, hlines, hnamed, hoffset, -, hchar, -⟩ :=
    report_points_at_opener .standard openFile herror
  obtain rfl : openQuery = query := Except.error.inj (hquery.symm.trans hfails)
  obtain rfl := (hlines _).mp (linesOf_sourceLines openQuery.source.toList)
  have hlocate := locate_place place
  rw [hoffset] at hlocate
  obtain ⟨hline, hcolumn, -⟩ := Location.mk.inj (hlocated.symm.trans hlocate)
  have hthree : place.line = 3 := congrArg (· + 1) hline.symm
  have htwo : place.column = 2 := congrArg (· + 1) hcolumn.symm
  rw [hthree, htwo] at hnamed
  exact ⟨by cbv, place, hquery, hnamed, hthree, htwo, hoffset, hchar⟩

end Report

end NamedSql
