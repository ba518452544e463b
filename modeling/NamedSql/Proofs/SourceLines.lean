/-
The lines of a source text, and the places in them.

Lines are given by a grammar that mentions no scan of the text: characters that end no line, then
a terminator, then the lines of what stands behind.  A carriage return in front of a line feed is
not a terminator by itself, and so a text has its lines in one way only.

* `LinesOf` — the lines of a text;
* `linesOf_iff` — they are what `sourceLines` gives;
* `Place` — a character in some lines, with all that stands around it;
* `exists_place` — every character of a text has a place in its lines;
* `locate_place` — a byte offset is turned into the line and the column of its place.
-/
import Mathlib
import NamedSql.Report
import NamedSql.Text.Utf8

namespace NamedSql.Report

open Text

/-! ### Lines -/

/-- What ends a line. -/
def terminators : List (List Char) :=
  [['\r', '\n'], ['\n'], ['\r'], ['\x0B'], ['\x0C'], ['\u0085'], ['\u2028'], ['\u2029']]

/-- The lines of a text, each but the last with the terminator that ends it. -/
inductive LinesOf : List Char → List (List Char) → Prop
  | last {content : List Char} : (∀ c ∈ content, [c] ∉ terminators) → LinesOf content [content]
  | next {content terminator rest : List Char} {lines : List (List Char)} :
      (∀ c ∈ content, [c] ∉ terminators) → terminator ∈ terminators →
        (terminator = ['\r'] → rest.head? ≠ some '\n') → LinesOf rest lines →
          LinesOf (content ++ (terminator ++ rest)) ((content ++ terminator) :: lines)

theorem isLineBreak_iff {c : Char} : isLineBreak c = true ↔ [c] ∈ terminators := by
  simp [isLineBreak, terminators]

theorem terminator_cases {terminator : List Char} (h : terminator ∈ terminators) :
    terminator = ['\r', '\n'] ∨ ∃ c, terminator = [c] ∧ isLineBreak c = true := by
  rcases List.mem_cons.mp h with rfl | hsingle
  · exact .inl rfl
  · have hlength : ∀ other ∈ terminators.tail, other.length = 1 := by decide
    obtain ⟨c, rfl⟩ := List.length_eq_one_iff.mp (hlength terminator hsingle)
    exact .inr ⟨c, rfl, isLineBreak_iff.mpr h⟩

theorem LinesOf.flatten_eq {s : List Char} {lines : List (List Char)} (h : LinesOf s lines) :
    lines.flatten = s := by
  induction h with
  | last => exact List.flatten_singleton
  | next _ _ _ _ ih => rw [List.flatten_cons, ih, List.append_assoc]

/-- A character that ends no line goes to the first of them. -/
theorem LinesOf.cons {c : Char} {s : List Char} {lines : List (List Char)} (h : LinesOf s lines)
    (hc : [c] ∉ terminators) : LinesOf (c :: s) (consFirst c lines) := by
  cases h with
  | last hcontent => exact .last (List.forall_mem_cons.mpr ⟨hc, hcontent⟩)
  | next hcontent hterminator hpair hrest =>
    exact .next (List.forall_mem_cons.mpr ⟨hc, hcontent⟩) hterminator hpair hrest

theorem sourceLines_cons {c : Char} (hc : [c] ∉ terminators) (s : List Char) :
    sourceLines (c :: s) = consFirst c (sourceLines s) := by
  have hbreak : ¬ isLineBreak c = true := isLineBreak_iff.not.mpr hc
  cases s with
  | nil =>
    show sourceLines [c] = [[c]]
    rw [sourceLines, if_neg hbreak]
  | cons d s =>
    have hpair : ¬ (c = '\r' ∧ d = '\n') := by
      rintro ⟨rfl, -⟩
      exact hc (by decide)
    rw [sourceLines, if_neg hpair, if_neg hbreak]

theorem sourceLines_terminator {terminator rest : List Char} (h : terminator ∈ terminators)
    (hpair : terminator = ['\r'] → rest.head? ≠ some '\n') :
    sourceLines (terminator ++ rest) = terminator :: sourceLines rest := by
  rcases terminator_cases h with rfl | ⟨c, rfl, hbreak⟩
  · show sourceLines ('\r' :: '\n' :: rest) = _
    rw [sourceLines, if_pos ⟨rfl, rfl⟩]
  rw [List.singleton_append]
  cases rest with
  | nil =>
    show sourceLines [c] = [[c], []]
    rw [sourceLines, if_pos hbreak]
  | cons d rest =>
    have hnot : ¬ (c = '\r' ∧ d = '\n') := by
      rintro ⟨rfl, rfl⟩
      exact hpair rfl rfl
    rw [sourceLines, if_neg hnot, if_pos hbreak]

theorem LinesOf.eq_sourceLines {s : List Char} {lines : List (List Char)} (h : LinesOf s lines) :
    lines = sourceLines s := by
  -- what stands in front of the end of a line is put in front of it one by one
  have hfront {content : List Char} (hcontent : ∀ c ∈ content, [c] ∉ terminators)
      {s first : List Char} {lines : List (List Char)} (hs : sourceLines s = first :: lines) :
      sourceLines (content ++ s) = (content ++ first) :: lines := by
    induction content with
    | nil => exact hs
    | cons c content ih =>
      obtain ⟨hc, hcontent⟩ := List.forall_mem_cons.mp hcontent
      rw [List.cons_append, sourceLines_cons hc, ih hcontent]
      rfl
  induction h with
  | last hcontent =>
    have hlast := hfront hcontent (rfl : sourceLines [] = [[]])
    rw [List.append_nil] at hlast
    exact hlast.symm
  | next hcontent hterminator hpair _ ih =>
    rw [hfront hcontent (sourceLines_terminator hterminator hpair), ih]

theorem linesOf_sourceLines (s : List Char) : LinesOf s (sourceLines s) := by
  have hnone : ∀ c ∈ ([] : List Char), [c] ∉ terminators := List.forall_mem_nil _
  fun_induction sourceLines s with
  | case1 => exact .last hnone
  | case2 c hbreak =>
    exact .next hnone (isLineBreak_iff.mp hbreak) (fun _ => nofun) (.last hnone)
  | case3 c hbreak =>
    exact .last (List.forall_mem_singleton.mpr (isLineBreak_iff.not.mp hbreak))
  | case4 c next rest hpair ih =>
    obtain ⟨rfl, rfl⟩ := hpair
    exact .next hnone List.mem_cons_self nofun ih
  | case5 c next rest hpair hbreak ih =>
    refine .next hnone (isLineBreak_iff.mp hbreak) (fun hreturn hnext => hpair ?_) ih
    exact ⟨(List.cons.inj hreturn).1, Option.some.inj hnext⟩
  | case6 c next rest hpair hbreak ih => exact ih.cons (isLineBreak_iff.not.mp hbreak)

/-- A text has its lines in one way only. -/
theorem linesOf_iff {s : List Char} {lines : List (List Char)} :
    LinesOf s lines ↔ lines = sourceLines s :=
  ⟨LinesOf.eq_sourceLines, fun h => h ▸ linesOf_sourceLines s⟩

/-! ### Places -/

/-- A character in some lines. -/
structure Place (lines : List (List Char)) where
  above : List (List Char)
  /-- What stands in front of the character in its line. -/
  left : List Char
  char : Char
  /-- What stands behind the character in its line. -/
  right : List Char
  below : List (List Char)
  lines_eq : lines = above ++ (left ++ char :: right) :: below

namespace Place

variable {lines : List (List Char)} (place : Place lines)

/-- The number of the line, from 1. -/
def line : Nat :=
  place.above.length + 1

/-- The number of the character in the line, from 1. -/
def column : Nat :=
  place.left.length + 1

/-- The line, with its terminator. -/
def text : List Char :=
  place.left ++ place.char :: place.right

/-- All that stands in front of the character. -/
def front : String :=
  String.ofList (place.above.flatten ++ place.left)

/-- The character and all that stands behind it. -/
def behind : String :=
  String.ofList (place.char :: place.right ++ place.below.flatten)

/-- The number of bytes in front of the character. -/
def offset : Nat :=
  (Utf8.encode place.front).length

end Place

/-- Every character of a text has a place in its lines. -/
theorem exists_place {lines : List (List Char)} {before : String} {c : Char} {rest : List Char}
    (h : lines.flatten = before.toList ++ c :: rest) :
    ∃ place : Place lines, place.char = c ∧ place.front = before ∧
      place.behind = String.ofList (c :: rest) := by
  have hplace (above below : List (List Char)) (left right : List Char)
      (hlines : lines = above ++ (left ++ c :: right) :: below)
      (hfront : before.toList = above.flatten ++ left) (hrest : rest = right ++ below.flatten) :
      ∃ place : Place lines, place.char = c ∧ place.front = before ∧
        place.behind = String.ofList (c :: rest) := by
    refine ⟨⟨above, left, c, right, below, hlines⟩, rfl, ?_, ?_⟩
    · rw [Place.front, ← hfront, String.ofList_toList]
    · rw [hrest]
      rfl
  rcases List.flatten_eq_append_iff.mp h with
    ⟨above, behind, hlines, hfront, hbehind⟩ | ⟨above, left, d, right, below, hlines, hfront, hd⟩
  · -- the cut falls between two lines, and the character is the first behind it
    obtain ⟨empty, right, below, rfl, hempty, rfl⟩ := List.flatten_eq_cons_iff.mp hbehind.symm
    refine hplace (above ++ empty) below [] right ?_ ?_ rfl
    · rw [hlines, List.append_assoc]
      rfl
    · rw [List.append_nil, List.flatten_append, List.flatten_eq_nil_iff.mpr hempty,
        List.append_nil, hfront]
  · obtain ⟨rfl, rfl⟩ := List.cons.inj hd
    exact hplace above below left right hlines hfront rfl

/-! ### Locating bytes -/

theorem byteLength_eq (s : List Char) :
    byteLength s = (Utf8.encode (String.ofList s)).length := by
  rw [Utf8.encode, String.toList_ofList]
  induction s with
  | nil => rfl
  | cons c s ih =>
    rw [byteLength, List.flatMap_cons, List.length_append, String.length_utf8EncodeChar, ih]

@[simp] theorem byteLength_append (s t : List Char) :
    byteLength (s ++ t) = byteLength s + byteLength t := by
  induction s with
  | nil => exact (Nat.zero_add _).symm
  | cons c s ih => rw [List.cons_append, byteLength, byteLength, ih, Nat.add_assoc]

theorem columnOf_byteLength (left : List Char) (c : Char) (right : List Char) :
    columnOf (byteLength left) (left ++ c :: right) = left.length := by
  induction left with
  | nil => rfl
  | cons d left ih =>
    have hpos : d.utf8Size + byteLength left ≠ 0 := by
      have := d.utf8Size_pos
      omega
    rw [List.cons_append, byteLength, columnOf, if_neg hpos, Nat.add_sub_cancel_left, ih]
    rfl

/-- The lines above are passed one by one. -/
theorem locateIn_place (number : Nat) (above : List (List Char)) (left : List Char) (c : Char)
    (right : List Char) (below : List (List Char)) :
    locateIn number (byteLength (above.flatten ++ left))
        (above ++ (left ++ c :: right) :: below) =
      { line := number + above.length, column := left.length, text := left ++ c :: right } := by
  induction above generalizing number with
  | nil =>
    rw [List.flatten_nil, List.nil_append, List.nil_append]
    cases below with
    | nil => rw [locateIn, columnOf_byteLength, List.length_nil, Nat.add_zero]
    | cons next below =>
      -- the character itself takes room in the line, so the offset is not behind it
      have hinside : byteLength left < byteLength (left ++ c :: right) := by
        have := c.utf8Size_pos
        rw [byteLength_append, byteLength]
        omega
      rw [locateIn, if_pos hinside, columnOf_byteLength, List.length_nil, Nat.add_zero]
      nofun
  | cons first above ih =>
    -- the offset lies behind the lines above
    have hbeyond : ¬ byteLength (first ++ (above.flatten ++ left)) < byteLength first := by
      rw [byteLength_append]
      omega
    have hmore : above ++ (left ++ c :: right) :: below ≠ [] :=
      List.append_ne_nil_of_right_ne_nil above (List.cons_ne_nil _ _)
    rw [List.flatten_cons, List.append_assoc, List.cons_append, locateIn, if_neg hbeyond,
      byteLength_append, Nat.add_sub_cancel_left, ih, List.length_cons, Nat.add_right_comm,
      Nat.add_assoc number]
    exact hmore

/-- The offset of a character is turned into its line and column. -/
theorem locate_place {source : String} (place : Place (sourceLines source.toList)) :
    locate source place.offset =
      { line := place.above.length, column := place.left.length, text := place.text } := by
  have hoffset : place.offset = byteLength (place.above.flatten ++ place.left) :=
    (byteLength_eq _).symm
  have hlocate := locateIn_place 0 place.above place.left place.char place.right place.below
  rw [← place.lines_eq, ← hoffset, Nat.zero_add] at hlocate
  exact hlocate

end NamedSql.Report
