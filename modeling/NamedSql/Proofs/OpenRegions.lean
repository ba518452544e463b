/-
Regions left open.

A region is left open by the end of the text alone.  What stands in front of it is read without
it, it is open by itself, and there is always something to close it with: a line break, so that no
delimiter and no escape goes on into what comes next, and then what the region waits for.

* `exists_closings` — the ends that an open comment waits for;
* `Closing.exists_of_extent` — every open region can be closed;
* `isOpen_of_lex` — the region that a text leaves open;
* `scan_error_exact` — the error of a query says where its last region opens, and no more.
-/
import Mathlib
import NamedSql.Proofs.Lines
import NamedSql.Proofs.SkippedText

namespace NamedSql.Sql

/-! ### What an open region holds -/

theorem quotedBody_of_extent {q : UInt8} {s : List UInt8} (h : quotedExtent q s = none) :
    QuotedBody q s := by
  fun_induction quotedExtent q s with
  | case1 => exact .nil
  | case2 => cases h
  | case3 b hb => exact .byte hb .nil
  | case4 rest ih => exact .doubled (ih (Option.map_eq_none_iff.mp h))
  | case5 => cases h
  | case6 b c rest hb ih => exact .byte hb (ih (Option.map_eq_none_iff.mp h))

theorem QuotedBody.concat {q b : UInt8} {body : List UInt8} (h : QuotedBody q body) (hb : b ≠ q) :
    QuotedBody q (body ++ [b]) := by
  induction h with
  | nil => exact .byte hb .nil
  | byte hc _ ih => exact .byte hc ih
  | doubled _ ih => exact .doubled ih

/-- One byte more is needed, because the last one may be a backslash. -/
theorem escapedBody_of_extent {s : List UInt8} (h : escapedExtent s = none) :
    EscapedBody (s ++ [Byte.newline]) := by
  have hend : EscapedBody [Byte.newline] := .byte (by decide) (by decide) .nil
  fun_induction escapedExtent s with
  | case1 => exact hend
  | case2 => cases h
  | case3 b hquote =>
    by_cases hslash : b = Byte.backslash
    · rw [hslash]
      exact .escaped .nil
    · exact .byte hslash hquote hend
  | case4 c rest ih => exact .escaped (ih (Option.map_eq_none_iff.mp h))
  | case5 rest _ ih => exact .doubled (ih (Option.map_eq_none_iff.mp h))
  | case6 => cases h
  | case7 b c rest hslash hquote ih =>
    exact .byte hslash hquote (ih (Option.map_eq_none_iff.mp h))

theorem firstBehind_of_extent {delimiter s : List UInt8} {b : UInt8}
    (h : delimitedExtent delimiter s = none) (hdelimiter : 0 < delimiter.length)
    (hb : b ∉ delimiter) : FirstBehind delimiter (s ++ [b]) := by
  induction s with
  | nil =>
    refine firstBehind_cons.mpr ⟨fun hahead => ?_, firstBehind_nil delimiter⟩
    have hempty : delimiter <+: [] := prefix_of_not_mem (s := []) hahead hb
    rw [List.prefix_nil.mp hempty] at hdelimiter
    cases hdelimiter
  | cons c s ih =>
    rw [delimitedExtent] at h
    split at h
    · cases h
    next hahead =>
    refine firstBehind_cons.mpr ⟨fun hfront => hahead ?_, ih (Option.map_eq_none_iff.mp h)⟩
    have hfront : delimiter <+: c :: s ++ b :: delimiter := by simpa using hfront
    exact List.isPrefixOf_iff_prefix.mpr (prefix_of_not_mem hfront hb)

/-! ### Closing comments -/

/-- The ends of that many comments. -/
def closings (count : Nat) : List UInt8 :=
  (List.replicate count [Byte.star, Byte.slash]).flatten

theorem closings_succ (count : Nat) :
    closings (count + 1) = Byte.star :: Byte.slash :: closings count := rfl

theorem lt_of_mem_closings {count : Nat} : ∀ b ∈ closings count, b < 0x80 := by
  intro b hb
  obtain ⟨ending, hending, hb⟩ := List.mem_flatten.mp hb
  rw [List.eq_of_mem_replicate hending] at hb
  simp only [List.mem_cons, List.not_mem_nil, or_false] at hb
  rcases hb with rfl | rfl <;> decide

theorem commentExtent_closings (depth : Nat) :
    commentExtent depth (closings (depth + 1)) = some (closings (depth + 1)).length := by
  induction depth with
  | zero => rfl
  | succ depth ih =>
    rw [closings_succ, commentExtent_closing, outerExtent, ih]
    rfl

/-- A line break is no part of a delimiter of comments. -/
theorem commentExtent_newline (depth : Nat) (c : UInt8) (s : List UInt8) :
    commentExtent depth (Byte.newline :: c :: s) = (commentExtent depth (c :: s)).map (· + 1) := by
  refine commentExtent_cons (fun hclose => ?_) (fun hopen => ?_) depth
  · exact absurd (pair_prefix_iff.mp hclose).1 (by decide)
  · exact absurd (pair_prefix_iff.mp hopen).1 (by decide)

theorem commentExtent_before_newline (depth : Nat) (b : UInt8) (s : List UInt8) :
    commentExtent depth (b :: Byte.newline :: s) =
      (commentExtent depth (Byte.newline :: s)).map (· + 1) := by
  refine commentExtent_cons (fun hclose => ?_) (fun hopen => ?_) depth
  · exact absurd (Option.some.inj (pair_prefix_iff.mp hclose).2) (by decide)
  · exact absurd (Option.some.inj (pair_prefix_iff.mp hopen).2) (by decide)

/-- Ends close an open comment.  The line break keeps its last byte apart from them. -/
theorem exists_closings {depth : Nat} {s : List UInt8} (h : commentExtent depth s = none) :
    ∃ count, commentExtent depth (s ++ Byte.newline :: closings count) =
      some (s ++ Byte.newline :: closings count).length := by
  have hnewline (depth : Nat) : commentExtent depth (Byte.newline :: closings (depth + 1)) =
      some (Byte.newline :: closings (depth + 1)).length := by
    rw [closings_succ, commentExtent_newline, ← closings_succ, commentExtent_closings]
    rfl
  -- by the recursion of the extent; the depth in the end is the number of closings it takes
  fun_induction commentExtent depth s with
  | case1 depth => exact ⟨depth + 1, hnewline depth⟩
  | case2 depth b =>
    refine ⟨depth + 1, ?_⟩
    rw [List.singleton_append, commentExtent_before_newline, hnewline]
    rfl
  | case3 => cases h
  | case4 b c rest hclose inner ih =>
    obtain ⟨rfl, rfl⟩ := hclose
    obtain ⟨count, hcount⟩ := ih (Option.map_eq_none_iff.mp h)
    refine ⟨count, ?_⟩
    rw [List.cons_append, List.cons_append, commentExtent_closing, outerExtent, hcount]
    rfl
  | case5 depth b c rest _ hopen ih =>
    obtain ⟨rfl, rfl⟩ := hopen
    obtain ⟨count, hcount⟩ := ih (Option.map_eq_none_iff.mp h)
    refine ⟨count, ?_⟩
    rw [List.cons_append, List.cons_append, commentExtent_opening, hcount]
    rfl
  | case6 depth b c rest hclose hopen ih =>
    obtain ⟨count, hcount⟩ := ih (Option.map_eq_none_iff.mp h)
    refine ⟨count, ?_⟩
    rw [List.cons_append, List.cons_append, commentExtent_cons (by simpa [eq_comm] using hclose)
      (by simpa [eq_comm] using hopen), ← List.cons_append, hcount]
    rfl

/-! ### Closing regions -/

section

variable {prev : Option UInt8} {kind : RegionKind} {opening behind : List UInt8}

theorem Opening.lt_of_mem (h : Opening prev kind opening) : ∀ b ∈ opening, b < 0x80 := by
  cases h with
  | @escapeString e he =>
    rw [List.forall_mem_cons, List.forall_mem_singleton]
    rcases he with rfl | rfl <;> decide
  | @dollarQuoted tag htag =>
    have hascii : ∀ b ∈ tag, b < 0x80 := by
      rcases htag with rfl | hname
      · exact List.forall_mem_nil _
      · exact fun b hb => lt_of_isIdentByte (hname.2 b hb)
    rw [dollarDelimiter, List.forall_mem_cons, List.forall_mem_append, List.forall_mem_singleton]
    exact ⟨by decide, hascii, by decide⟩
  | string => exact List.forall_mem_singleton.mpr (by decide)
  | quotedIdentifier => exact List.forall_mem_singleton.mpr (by decide)
  | _ =>
    rw [List.forall_mem_cons, List.forall_mem_singleton]
    decide

/-- Whatever region is left open, a line break and some ASCII bytes close it. -/
theorem Closing.exists_of_extent (hopening : Opening prev kind opening)
    (h : closingExtent kind opening behind = none) :
    ∃ closer, (∀ b ∈ closer, b < 0x80) ∧
      Closing kind opening (behind ++ Byte.newline :: closer) [] := by
  -- the line feed becomes part of the body; then each kind is closed by its own end
  cases kind with
  | string =>
    have hbody := (quotedBody_of_extent h).concat (b := Byte.newline) (by decide)
    exact ⟨[Byte.quote], List.forall_mem_singleton.mpr (by decide),
      by simpa using Closing.string hbody (by simp)⟩
  | escapeString =>
    have hbody := escapedBody_of_extent h
    exact ⟨[Byte.quote], List.forall_mem_singleton.mpr (by decide),
      by simpa using Closing.escapeString hbody (by simp)⟩
  | quotedIdentifier =>
    have hbody := (quotedBody_of_extent h).concat (b := Byte.newline) (by decide)
    exact ⟨[Byte.doubleQuote], List.forall_mem_singleton.mpr (by decide),
      by simpa using Closing.quotedIdentifier hbody (by simp)⟩
  | lineComment => cases h
  | blockComment =>
    obtain ⟨count, hcount⟩ := exists_closings h
    have hextent : closingExtent .blockComment opening (behind ++ Byte.newline :: closings count) =
        some (behind ++ Byte.newline :: closings count).length := hcount
    obtain ⟨tail, rest, htail, hlength, hclosing⟩ := closingExtent_sound hextent
    have hrest := congrArg List.length htail
    rw [← hlength, List.length_append, Nat.left_eq_add, List.length_eq_zero_iff] at hrest
    rw [hrest, List.append_nil] at htail
    refine ⟨closings count, lt_of_mem_closings, ?_⟩
    rw [htail, ← hrest]
    exact hclosing
  | dollarQuoted =>
    have hbody := firstBehind_of_extent h hopening.length_pos hopening.newline_not_mem
    exact ⟨opening, hopening.lt_of_mem, by simpa using Closing.dollarQuoted hbody⟩

end

/-! ### The region that a text leaves open -/

theorem Opening.alone {prev : Option UInt8} {kind : RegionKind} {opening : List UInt8}
    (h : Opening prev kind opening) : Opening none kind opening := by
  cases h with
  | string => exact .string
  | quotedIdentifier => exact .quotedIdentifier
  | lineComment => exact .lineComment
  | blockComment => exact .blockComment
  | escapeString he => exact .escapeString he rfl
  | dollarQuoted htag => exact .dollarQuoted htag rfl

namespace IsOpen

variable {prev : Option UInt8} {what : Unclosed} {s : List UInt8}

/-- What is left open in a text is left open by itself. -/
theorem alone (h : IsOpen prev what s) : IsOpen none what s := by
  obtain ⟨kind, opening, behind, hs, hopening, hwhat, hnone⟩ := h
  exact ⟨kind, opening, behind, hs, hopening.alone, hwhat, hnone⟩

/-- An open region starts with an ASCII byte. -/
theorem eq_cons (h : IsOpen prev what s) : ∃ b tail, s = b :: tail ∧ b < 0x80 := by
  obtain ⟨kind, opening, behind, rfl, hopening, -, -⟩ := h
  obtain ⟨b, tail, rfl⟩ := List.exists_cons_of_length_pos hopening.length_pos
  exact ⟨b, tail ++ behind, rfl, hopening.lt_of_mem b List.mem_cons_self⟩

/-- Some ASCII bytes make a region of what is left open, and one that looks the same from the
front. -/
theorem exists_closer (h : IsOpen prev what s) :
    ∃ kind closer, (∀ b ∈ closer, b < 0x80) ∧ IsToken prev (.region kind) (s ++ closer) [] ∧
      Covers s (s ++ closer) := by
  obtain ⟨kind, opening, behind, rfl, hopening, -, hnone⟩ := h
  obtain ⟨closer, hascii, hclosing⟩ :=
    Closing.exists_of_extent hopening (closingExtent_eq_none_iff.mpr hnone)
  refine ⟨kind, Byte.newline :: closer, List.forall_mem_cons.mpr ⟨by decide, hascii⟩, ?_, ?_⟩
  · rw [List.append_assoc]
    exact .region hopening hclosing
  · rw [List.append_assoc]
    exact covers_of_opening hopening hopening _ _

end IsOpen

theorem isOpen_of_lex {prev : Option UInt8} {what : Unclosed} {s rest : List UInt8}
    (h : lex prev s = { tokens := [], unclosed := some (what, rest) }) : IsOpen prev what s := by
  cases s with
  | nil =>
    rw [lex_nil] at h
    cases h
  | cons b s =>
    rcases exists_isToken_or_isOpen prev b s with ⟨kind, text, rest, rfl, htoken⟩ | ⟨other, hopen⟩
    · rw [← List.cons_append, lex_append htoken] at h
      cases h
    · rw [lex_of_isOpen hopen] at h
      cases h
      exact hopen

/-- A text that leaves a region open is read in front of the region without regard to it. -/
theorem lex_of_unclosed {prev : Option UInt8} {what : Unclosed} {s rest : List UInt8}
    (h : (lex prev s).unclosed = some (what, rest)) :
    ∃ front, s = front ++ rest ∧ (lex prev s).tokens.flatMap Token.text = front ∧
      IsOpen (front.getLast?.or prev) what rest ∧
      ∀ rest', Covers rest rest' → lex prev (front ++ rest') =
        (lex (front.getLast?.or prev) rest').prependTokens (lex prev s).tokens := by
  have htext := lex_text prev s
  rw [Lexed.text, h] at htext
  have hsplit : s = (lex prev s).tokens.flatMap Token.text ++ rest := htext.symm
  have htokens : (lex prev ((lex prev s).tokens.flatMap Token.text ++ rest)).tokens =
      (lex prev s).tokens ++ [] := by
    rw [← hsplit, List.append_nil]
  have hread (rest' : List UInt8) (hcovers : Covers rest rest') :=
    lex_append_of_covers hcovers htokens rfl
  -- nothing is read behind the tokens in front, since they are all the tokens there are
  suffices hlast : lex (((lex prev s).tokens.flatMap Token.text).getLast?.or prev) rest =
      { tokens := [], unclosed := some (what, rest) } from
    ⟨_, hsplit, rfl, isOpen_of_lex hlast, hread⟩
  have hwhole := hread rest (.refl rest)
  rw [← hsplit] at hwhole
  generalize lex ((List.flatMap Token.text (lex prev s).tokens).getLast?.or prev) rest = last
    at hwhole ⊢
  obtain ⟨tokens, unclosed⟩ := last
  obtain rfl : tokens = [] := List.self_eq_append_right.mp (congrArg Lexed.tokens hwhole)
  obtain rfl : (lex prev s).unclosed = unclosed := congrArg Lexed.unclosed hwhole
  rw [h]

/-! ### The error of a query -/

/-- The scanner of a query gives these references one after the other, then the error, then
nothing. -/
def Yields (sql : String) (references : List Reference) (error? : Option ScanError) : Prop :=
  ∀ count, (Scanner.start sql).steps count =
    (List.range count).map fun k => (answers references error?)[k]?

theorem yields_lexQuery (sql : String) :
    Yields sql (lexQuery sql).references (lexQuery sql).error? :=
  fun count => (Scanner.start sql).steps_eq count

/-- A query that leaves a region open, cut in front of the region, and with the region closed. -/
theorem exists_cut_of_error {sql : String} {error : ScanError} (h : scan sql = .error error) :
    ∃ before behind closer, sql = before ++ behind ∧
      error.span = { offset := (Utf8.encode before).length
                     length := (Utf8.encode behind).length } ∧
      IsOpen none error.what (Utf8.encode behind) ∧
      lexQuery before = { tokens := (lexQuery sql).tokens, unclosed := none } ∧
      ∃ region, region.kind ≠ .marker ∧
        lexQuery (sql ++ closer) =
          { tokens := (lexQuery sql).tokens ++ [region], unclosed := none } := by
  rw [scan_eq_error_iff, Lexed.error?, Option.map_eq_some_iff] at h
  obtain ⟨⟨what, rest⟩, hunclosed, rfl⟩ := h
  obtain ⟨front, hsplit, hfront, hopen, hread⟩ := lex_of_unclosed hunclosed
  -- the delimiter starts with an ASCII byte, so the query may be cut there
  obtain ⟨b, tail, rfl, hb⟩ := hopen.eq_cons
  have hwhole := Utf8.isText_encode sql
  rw [hsplit] at hwhole
  obtain ⟨⟨before, rfl⟩, htail⟩ := hwhole.cut hb
  obtain ⟨behind, hbehind⟩ : Utf8.IsText (b :: tail) :=
    (Utf8.isText_of_ascii (List.forall_mem_singleton.mpr hb)).append htail
  obtain ⟨kind, closing, hascii, htoken, hcovers⟩ := hopen.exists_closer
  obtain ⟨closer, rfl⟩ := Utf8.isText_of_ascii hascii
  rw [← hbehind] at hsplit hopen htoken hcovers hread ⊢
  refine ⟨before, behind, closer, ?_, ?_, hopen.alone, ?_,
    { kind := .region kind, text := Utf8.encode behind ++ Utf8.encode closer }, by simp, ?_⟩
  · exact Utf8.encode_injective (hsplit.trans (Utf8.encode_append before behind).symm)
  · rw [← hfront]
    rfl
  · have hbefore := hread [] (.nil _)
    rw [List.append_nil, lex_nil, Lexed.prependTokens, List.append_nil] at hbefore
    exact hbefore
  · have hclosed := hread _ hcovers
    rw [← List.append_nil (Utf8.encode behind ++ Utf8.encode closer), lex_append htoken, lex_nil,
      List.append_nil, ← List.append_assoc, ← hsplit, ← Utf8.encode_append] at hclosed
    exact hclosed

/-- **Errors of scanning are exact, and only the end of the text causes them.**  An error spans
the query from the delimiter of a region to the end.  The query in front of it is scanned without
error and has the references that the scanner gives before the error.  The rest by itself has no
reference and the same error.  And there is a text behind which makes the error go away and adds
no reference. -/
theorem scan_error_exact {sql : String} {error : ScanError} (h : scan sql = .error error) :
    ∃ (references : List Reference) (before behind closer : String),
      Yields sql references (some error) ∧
      error.span.stop = (Utf8.encode sql).length ∧ 0 < error.span.length ∧
      sql = before ++ behind ∧ (Utf8.encode before).length = error.span.offset ∧
      scan before = .ok references ∧
      Yields behind [] (some { error with span := { error.span with offset := 0 } }) ∧
      scan behind = .error { error with span := { error.span with offset := 0 } } ∧
      scan (sql ++ closer) = .ok references := by
  obtain ⟨before, behind, closer, hsplit, hspan, hopen, hbefore, region, hregion, hclosed⟩ :=
    exists_cut_of_error h
  have hbehind : lexQuery behind =
      { tokens := [], unclosed := some (error.what, Utf8.encode behind) } := lex_of_isOpen hopen
  have herror : (lexQuery behind).error? =
      some { error with span := { error.span with offset := 0 } } := by
    rw [hbehind, hspan]
    rfl
  have hyields := yields_lexQuery sql
  rw [scan_eq_error_iff.mp h] at hyields
  have hyieldsBehind := yields_lexQuery behind
  rw [herror, hbehind] at hyieldsBehind
  refine ⟨_, before, behind, closer, hyields, ?_, ?_, hsplit, ?_, ?_, hyieldsBehind,
    scan_eq_error_iff.mpr herror, ?_⟩
  · rw [hspan, Span.stop, hsplit, Utf8.encode_append, List.length_append]
  · obtain ⟨b, tail, hcons, -⟩ := hopen.eq_cons
    rw [hspan, hcons]
    exact Nat.succ_pos _
  · rw [hspan]
  · rw [scan_eq_ok_iff, hbefore]
    exact ⟨rfl, rfl⟩
  · rw [scan_eq_ok_iff, hclosed]
    refine ⟨rfl, ?_⟩
    rw [Lexed.references, Lexed.references, referencesFrom_append, referencesFrom_skip _ hregion]
    exact (List.append_nil _).symm

/-- A comment within a comment, the inner one closed and the outer one not. -/
theorem scan_error_nested_comment :
    ∃ (references : List Reference) (before behind closer : String),
      Yields "SELECT :a, 'é' /* x /* y */ :b /" references (some ⟨.blockComment, ⟨16, 17⟩⟩) ∧
      "SELECT :a, 'é' /* x /* y */ :b /" = before ++ behind ∧ (Utf8.encode before).length = 16 ∧
      scan before = .ok references ∧
      scan behind = .error ⟨.blockComment, ⟨0, 17⟩⟩ ∧
      scan ("SELECT :a, 'é' /* x /* y */ :b /" ++ closer) = .ok references := by
  have herror : scan "SELECT :a, 'é' /* x /* y */ :b /" = .error ⟨.blockComment, ⟨16, 17⟩⟩ := by
    cbv
  obtain ⟨references, before, behind, closer, hyields, -, -, hsplit, hlength, hbefore, -, hbehind,
    hclosed⟩ := scan_error_exact herror
  exact ⟨references, before, behind, closer, hyields, hsplit, hlength, hbefore, hbehind, hclosed⟩

end NamedSql.Sql
