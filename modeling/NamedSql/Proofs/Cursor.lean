/-
Scanning with a cursor.

A cursor is a position in the bytes of a query and what the position lies in: the text between
regions, a quoted region or a comment.  Every look at a byte before the position, every stretch of
bytes, every slice and every difference is checked here, and a step has no result where a check
fails.

* `Cursor.step` — one round of the loop that the cursor is in;
* `Runs` — a whole run: every step has a result and goes on, and none beyond the end;
* `skips_opening` — a region is skipped as far as it extends;
* `runs_lex` — the run from a position gives what is read off the lexical structure;
* `scan_stays_within` — no query makes scanning or compiling leave the query.
-/
import Mathlib
import NamedSql.Proofs.Slices

namespace NamedSql.Sql

/-! ### Checked reads -/

/-- The byte before a position, none at the start.  No result if the position is behind the
end. -/
def before? (bytes : List UInt8) : Nat → Option (Option UInt8)
  | 0 => some none
  | before + 1 => bytes[before]?.map some

/-- The bytes from a position on, if it is not behind the end. -/
def from? (bytes : List UInt8) (position : Nat) : Option (List UInt8) :=
  if position ≤ bytes.length then some (bytes.drop position) else none

/-- The bytes from one position to another, if they are in order and not behind the end. -/
def between? (bytes : List UInt8) (start stop : Nat) : Option (List UInt8) :=
  if start ≤ stop ∧ stop ≤ bytes.length then some ((bytes.take stop).drop start) else none

/-! ### The cursor -/

/-- What a position lies in. -/
inductive Mode where
  | between
  /-- A quoted region from `start` on, in which a backslash may take the next byte with it. -/
  | quoted (quote : UInt8) (escapes : Bool) (what : Unclosed) (start : Nat)
  /-- A comment from `start` on, with `depth` comments open inside it. -/
  | comment (depth start : Nat)

/-- A position and what it lies in. -/
structure Cursor where
  position : Nat
  mode : Mode

/-- What one step does. -/
inductive Move where
  | next (cursor : Cursor)
  | reference (reference : Reference) (cursor : Cursor)
  | error (error : ScanError)
  | done

/-- Before the first byte. -/
def Cursor.start : Cursor :=
  { position := 0, mode := .between }

/-- On to a position between regions. -/
def Move.between (position : Nat) : Move :=
  .next { position, mode := .between }

/-- The error of a region that opens at `start`. -/
def Move.unclosed? (bytes : List UInt8) (what : Unclosed) (start : Nat) : Option Move :=
  if start ≤ bytes.length then
    some (.error { what, span := { offset := start, length := bytes.length - start } })
  else none

/-- A step within quotes. -/
def stepQuoted (bytes : List UInt8) (position : Nat) (quote : UInt8) (escapes : Bool)
    (what : Unclosed) (start : Nat) : Option Move :=
  match bytes[position]? with
  | none => Move.unclosed? bytes what start
  | some b =>
    if escapes = true ∧ b = Byte.backslash then
      if bytes[position + 1]? = none then Move.unclosed? bytes what start
      else some (.next ⟨position + 2, .quoted quote escapes what start⟩)
    else if b = quote then
      if bytes[position + 1]? = some quote then
        some (.next ⟨position + 2, .quoted quote escapes what start⟩)
      else some (.between (position + 1))
    else some (.next ⟨position + 1, .quoted quote escapes what start⟩)

/-- A step within a comment. -/
def stepComment (bytes : List UInt8) (position depth start : Nat) : Option Move :=
  match bytes[position]? with
  | none => Move.unclosed? bytes .blockComment start
  | some b =>
    if b = Byte.star ∧ bytes[position + 1]? = some Byte.slash then
      match depth with
      | 0 => some (.between (position + 2))
      | inner + 1 => some (.next ⟨position + 2, .comment inner start⟩)
    else if b = Byte.slash ∧ bytes[position + 1]? = some Byte.star then
      some (.next ⟨position + 2, .comment (depth + 1) start⟩)
    else some (.next ⟨position + 1, .comment depth start⟩)

/-- The length of the delimiter that the `$` at a position opens, if it opens one. -/
def delimiterLength? (bytes : List UInt8) (position : Nat) : Option (Option Nat) :=
  (before? bytes position).bind fun prev =>
    if followsIdent prev then some none
    else (from? bytes (position + 1)).map fun behind =>
      if behind.head? = some Byte.dollar then some 2
      else if startsIdent behind ∧ behind[(identRun behind).length]? = some Byte.dollar then
        some ((identRun behind).length + 2)
      else none

/-- Over the dollar quote that opens at a position with a delimiter of some length. -/
def skipDelimited (bytes : List UInt8) (position length : Nat) : Option Move :=
  (between? bytes position (position + length)).bind fun delimiter =>
    (from? bytes (position + length)).bind fun body =>
      -- the search goes through the body in windows as long as the delimiter
      if length = 0 then none
      else
        match delimitedExtent delimiter body with
        | some extent => some (.between (position + length + extent))
        | none => Move.unclosed? bytes .dollarQuote position

/-- The reference of the colon at a position, if it is a marker. -/
def referenceAt? (sql : String) (position : Nat) : Option (Option Reference) :=
  (before? (Utf8.encode sql) position).bind fun prev =>
    if prev = some Byte.colon ∨ followsIdent prev = true then some none
    else (from? (Utf8.encode sql) (position + 1)).bind fun behind =>
      if startsIdent behind then
        let stop := position + 1 + (identRun behind).length
        (Utf8.slice? sql (position + 1) stop).map fun name =>
          some { name, span := { offset := position, length := stop - position } }
      else some none

/-- A step between regions, from the byte at the position and the one behind it. -/
def stepAt (sql : String) (position : Nat) (b : UInt8) (next? : Option UInt8) : Option Move :=
  if b = Byte.quote then
    some (.next ⟨position + 1, .quoted Byte.quote false .stringLiteral position⟩)
  else if b = Byte.doubleQuote then
    some (.next ⟨position + 1, .quoted Byte.doubleQuote false .quotedIdentifier position⟩)
  else if (b = Byte.upperE ∨ b = Byte.lowerE) ∧ next? = some Byte.quote then
    (before? (Utf8.encode sql) position).map fun prev =>
      -- behind an identifier byte it is one more byte of the identifier
      if followsIdent prev then .between (position + 1)
      else .next ⟨position + 2, .quoted Byte.quote true .stringLiteral position⟩
  else if b = Byte.dash ∧ next? = some Byte.dash then
    (from? (Utf8.encode sql) position).map fun line => .between (position + lineExtent line)
  else if b = Byte.slash ∧ next? = some Byte.star then
    some (.next ⟨position + 2, .comment 0 position⟩)
  else if b = Byte.dollar then
    (delimiterLength? (Utf8.encode sql) position).bind fun
      | some length => skipDelimited (Utf8.encode sql) position length
      | none => some (.between (position + 1))
  else if b = Byte.colon then
    if next? = some Byte.colon then some (.between (position + 2))
    else (referenceAt? sql position).map fun
      | some reference => .reference reference ⟨reference.span.stop, .between⟩
      | none => .between (position + 1)
  else some (.between (position + 1))

/-- A step between regions. -/
def stepBetween (sql : String) (position : Nat) : Option Move :=
  match (Utf8.encode sql)[position]? with
  | none => some .done
  | some b => stepAt sql position b (Utf8.encode sql)[position + 1]?

/-- One round of the loop that the cursor is in.  There is no result where a check fails. -/
def Cursor.step (sql : String) (cursor : Cursor) : Option Move :=
  match cursor.mode with
  | .between => stepBetween sql cursor.position
  | .quoted quote escapes what start =>
    stepQuoted (Utf8.encode sql) cursor.position quote escapes what start
  | .comment depth start => stepComment (Utf8.encode sql) cursor.position depth start

/-- A run from a cursor to the end, with its answers: every step has a result, and every step but
the last one goes on to a later position that is not behind the end. -/
inductive Runs (sql : String) : Cursor → List (Except ScanError Reference) → Prop
  | done {cursor : Cursor} : cursor.step sql = some .done → Runs sql cursor []
  | failed {cursor : Cursor} {error : ScanError} :
      cursor.step sql = some (.error error) → Runs sql cursor [.error error]
  | next {cursor after : Cursor} {found : List (Except ScanError Reference)} :
      cursor.step sql = some (.next after) → cursor.position < after.position →
        after.position ≤ (Utf8.encode sql).length → Runs sql after found → Runs sql cursor found
  | reference {cursor after : Cursor} {reference : Reference}
      {found : List (Except ScanError Reference)} :
      cursor.step sql = some (.reference reference after) → cursor.position < after.position →
        after.position ≤ (Utf8.encode sql).length → Runs sql after found →
          Runs sql cursor (.ok reference :: found)

/-! ### Reads where the text goes on -/

section

variable {bytes text s : List UInt8} {position : Nat}

theorem head?_ahead (h : bytes.drop position = s) : bytes[position]? = s.head? := by
  rw [← h, List.head?_drop]

theorem getElem?_ahead (h : bytes.drop position = s) (k : Nat) :
    bytes[position + k]? = s[k]? := by
  rw [← h, List.getElem?_drop]

theorem drop_ahead (h : bytes.drop position = s) (k : Nat) :
    bytes.drop (position + k) = s.drop k := by
  rw [← h, List.drop_drop]

theorem le_ahead (h : bytes.drop position = s) {k : Nat} (hpos : 0 < k) (hk : k ≤ s.length) :
    position + k ≤ bytes.length := by
  rw [← h, List.length_drop] at hk
  omega

theorem le_behind (h : bytes.drop position = text ++ s) (htext : text ≠ []) :
    position + text.length ≤ bytes.length :=
  le_ahead h (List.length_pos_iff.mpr htext) (by simp)

theorem before?_behind (h : bytes.drop position = text ++ s) (htext : text ≠ []) :
    before? bytes (position + text.length) = some text.getLast? := by
  obtain ⟨front, b, rfl⟩ := (List.eq_nil_or_concat' text).resolve_left htext
  rw [List.length_append, List.length_singleton, ← Nat.add_assoc, before?, getElem?_ahead h,
    List.append_assoc, List.getElem?_append_right (Nat.le_refl _), Nat.sub_self,
    List.getLast?_concat]
  rfl

theorem drop_behind (h : bytes.drop position = text ++ s) :
    bytes.drop (position + text.length) = s := by
  rw [drop_ahead h, List.drop_left]

theorem from?_ahead (h : bytes.drop position = s) (hle : position ≤ bytes.length) :
    from? bytes position = some s := by
  rw [from?, if_pos hle, h]

theorem between?_behind (h : bytes.drop position = text ++ s) (htext : text ≠ []) :
    between? bytes position (position + text.length) = some text := by
  rw [between?, if_pos ⟨Nat.le_add_right _ _, le_behind h htext⟩, List.drop_take, h,
    Nat.add_sub_cancel_left, List.take_left]

end

/-! ### Skipping regions -/

/-- Over a region that starts at `start`: behind its extent a run goes on between regions, and
where it has none, a run ends with the error. -/
def Skips (sql : String) (cursor : Cursor) (what : Unclosed) (start : Nat) : Option Nat → Prop
  | some extent => ∀ found, Runs sql ⟨cursor.position + extent, .between⟩ found →
      Runs sql cursor found
  | none => Runs sql cursor
      [.error { what, span := { offset := start, length := (Utf8.encode sql).length - start } }]

section

variable {sql : String} {cursor : Cursor} {what : Unclosed} {start : Nat}

theorem Skips.later {position count : Nat} {mode after : Mode} {extent? : Option Nat}
    (h : Skips sql ⟨position + count, after⟩ what start extent?)
    (hstep : Cursor.step sql ⟨position, mode⟩ = some (.next ⟨position + count, after⟩))
    (hcount : 0 < count) (hle : position + count ≤ (Utf8.encode sql).length) :
    Skips sql ⟨position, mode⟩ what start (extent?.map (· + count)) := by
  have hlt : position < position + count := Nat.lt_add_of_pos_right hcount
  cases extent? with
  | none => exact .next hstep hlt hle h
  | some extent =>
    intro found hfound
    refine .next hstep hlt hle (h found ?_)
    show Runs sql ⟨position + count + extent, .between⟩ found
    rw [Nat.add_assoc, Nat.add_comm count]
    exact hfound

theorem Skips.closed {extent : Nat}
    (hstep : cursor.step sql = some (.between (cursor.position + extent))) (hextent : 0 < extent)
    (hle : cursor.position + extent ≤ (Utf8.encode sql).length) :
    Skips sql cursor what start (some extent) :=
  fun _ hfound => .next hstep (Nat.lt_add_of_pos_right hextent) hle hfound

theorem Skips.unclosed (hstep : cursor.step sql = Move.unclosed? (Utf8.encode sql) what start)
    (hstart : start ≤ (Utf8.encode sql).length) : Skips sql cursor what start none :=
  .failed (hstep.trans (if_pos hstart))

end

section

variable {sql : String} {start position : Nat} {s : List UInt8}
  (hstart : start ≤ (Utf8.encode sql).length)
include hstart

theorem skips_quoted_end (q : UInt8) (escapes : Bool) {what : Unclosed}
    (h : (Utf8.encode sql).drop position = []) :
    Skips sql ⟨position, .quoted q escapes what start⟩ what start none :=
  .unclosed (by simp [Cursor.step, stepQuoted, head?_ahead h]) hstart

theorem skips_comment_end (depth : Nat) (h : (Utf8.encode sql).drop position = []) :
    Skips sql ⟨position, .comment depth start⟩ .blockComment start none :=
  .unclosed (by simp [Cursor.step, stepComment, head?_ahead h]) hstart

theorem skips_quoted {q : UInt8} {what : Unclosed} (h : (Utf8.encode sql).drop position = s) :
    Skips sql ⟨position, .quoted q false what start⟩ what start (quotedExtent q s) := by
  -- the cases are the branches of the extent, each of which is one step
  fun_induction quotedExtent q s generalizing position with
  | case1 => exact skips_quoted_end hstart q false h
  | case2 =>
    exact .closed (by simp [Cursor.step, stepQuoted, head?_ahead h, getElem?_ahead h])
      Nat.one_pos (le_ahead h Nat.one_pos (Nat.le_refl 1))
  | case3 b hb =>
    exact (skips_quoted_end hstart q false (drop_ahead h 1)).later
      (by simp [Cursor.step, stepQuoted, head?_ahead h, hb]) Nat.one_pos
      (le_ahead h Nat.one_pos (Nat.le_refl 1))
  | case4 rest ih =>
    exact (ih (drop_ahead h 2)).later
      (by simp [Cursor.step, stepQuoted, head?_ahead h, getElem?_ahead h]) Nat.two_pos
      (le_ahead h Nat.two_pos (Nat.le_add_left 2 _))
  | case5 c rest hc =>
    exact .closed (by simp [Cursor.step, stepQuoted, head?_ahead h, getElem?_ahead h, hc])
      Nat.one_pos (le_ahead h Nat.one_pos (Nat.le_add_left 1 _))
  | case6 b c rest hb ih =>
    exact (ih (drop_ahead h 1)).later (by simp [Cursor.step, stepQuoted, head?_ahead h, hb])
      Nat.one_pos (le_ahead h Nat.one_pos (Nat.le_add_left 1 _))

theorem skips_escaped (h : (Utf8.encode sql).drop position = s) :
    Skips sql ⟨position, .quoted Byte.quote true .stringLiteral start⟩ .stringLiteral start
      (escapedExtent s) := by
  have hne : Byte.quote ≠ Byte.backslash := by decide
  fun_induction escapedExtent s generalizing position with
  | case1 => exact skips_quoted_end hstart Byte.quote true h
  | case2 =>
    exact .closed (by simp [Cursor.step, stepQuoted, head?_ahead h, getElem?_ahead h, hne])
      Nat.one_pos (le_ahead h Nat.one_pos (Nat.le_refl 1))
  | case3 b hb =>
    by_cases hslash : b = Byte.backslash
    -- a backslash at the end is an error at once, with nothing to take along
    · exact .unclosed (by simp [Cursor.step, stepQuoted, head?_ahead h, getElem?_ahead h, hslash])
        hstart
    · exact (skips_quoted_end hstart Byte.quote true (drop_ahead h 1)).later
        (by simp [Cursor.step, stepQuoted, head?_ahead h, hb, hslash]) Nat.one_pos
        (le_ahead h Nat.one_pos (Nat.le_refl 1))
  | case4 c rest ih =>
    exact (ih (drop_ahead h 2)).later
      (by simp [Cursor.step, stepQuoted, head?_ahead h, getElem?_ahead h]) Nat.two_pos
      (le_ahead h Nat.two_pos (Nat.le_add_left 2 _))
  | case5 rest _ ih =>
    exact (ih (drop_ahead h 2)).later
      (by simp [Cursor.step, stepQuoted, head?_ahead h, getElem?_ahead h]) Nat.two_pos
      (le_ahead h Nat.two_pos (Nat.le_add_left 2 _))
  | case6 c rest hc =>
    exact .closed (by simp [Cursor.step, stepQuoted, head?_ahead h, getElem?_ahead h, hne, hc])
      Nat.one_pos (le_ahead h Nat.one_pos (Nat.le_add_left 1 _))
  | case7 b c rest hslash hb ih =>
    exact (ih (drop_ahead h 1)).later
      (by simp [Cursor.step, stepQuoted, head?_ahead h, hb, hslash])
      Nat.one_pos (le_ahead h Nat.one_pos (Nat.le_add_left 1 _))

theorem skips_comment {depth : Nat} (h : (Utf8.encode sql).drop position = s) :
    Skips sql ⟨position, .comment depth start⟩ .blockComment start (commentExtent depth s) := by
  have hne : Byte.slash ≠ Byte.star := by decide
  -- one case for each branch of the extent: the cursor goes one byte or two, and then the extent
  -- goes on
  fun_induction commentExtent depth s generalizing position with
  | case1 depth => exact skips_comment_end hstart depth h
  | case2 depth b =>
    exact (skips_comment_end hstart depth (drop_ahead h 1)).later
      (by simp [Cursor.step, stepComment, head?_ahead h, getElem?_ahead h])
      Nat.one_pos (le_ahead h Nat.one_pos (Nat.le_refl 1))
  | case3 b c rest hclose =>
    exact .closed (by simp [Cursor.step, stepComment, head?_ahead h, getElem?_ahead h, hclose])
      Nat.two_pos (le_ahead h Nat.two_pos (Nat.le_add_left 2 _))
  | case4 b c rest hclose inner ih =>
    exact (ih (drop_ahead h 2)).later
      (by simp [Cursor.step, stepComment, head?_ahead h, getElem?_ahead h, hclose]) Nat.two_pos
      (le_ahead h Nat.two_pos (Nat.le_add_left 2 _))
  | case5 depth b c rest hclose hopen ih =>
    exact (ih (drop_ahead h 2)).later
      (by simp [Cursor.step, stepComment, head?_ahead h, getElem?_ahead h, hopen, hne])
      Nat.two_pos (le_ahead h Nat.two_pos (Nat.le_add_left 2 _))
  | case6 depth b c rest hclose hopen ih =>
    exact (ih (drop_ahead h 1)).later
      (by simp [Cursor.step, stepComment, head?_ahead h, getElem?_ahead h, hclose, hopen])
      Nat.one_pos (le_ahead h Nat.one_pos (Nat.le_add_left 1 _))

end

theorem skips_delimited {sql : String} {position : Nat} {delimiter behind : List UInt8}
    (h : (Utf8.encode sql).drop position = delimiter ++ behind) (hne : delimiter ≠ [])
    (hstep : Cursor.step sql ⟨position, .between⟩ =
      skipDelimited (Utf8.encode sql) position delimiter.length) :
    Skips sql ⟨position, .between⟩ .dollarQuote position
      ((delimitedExtent delimiter behind).map (· + delimiter.length)) := by
  have hpos := List.length_pos_iff.mpr hne
  have hle := le_behind h hne
  have hbehind := drop_behind h
  rw [skipDelimited, between?_behind h hne, Option.bind_some, from?_ahead hbehind hle,
    Option.bind_some, if_neg (Nat.ne_of_gt hpos)] at hstep
  -- the whole quote is one step, so its end is found at once or not at all
  cases hextent : delimitedExtent delimiter behind with
  | none =>
    rw [hextent] at hstep
    exact .unclosed hstep (Nat.le_of_add_right_le hle)
  | some extent =>
    rw [hextent] at hstep
    dsimp only at hstep
    rw [Nat.add_assoc, Nat.add_comm _ extent] at hstep
    obtain ⟨body, rest, hbody, -, hextent⟩ := delimitedExtent_sound hextent
    refine .closed hstep (Nat.add_pos_right _ hpos) ?_
    have hlength := congrArg List.length (hbehind.trans hbody)
    simp only [List.length_drop, List.length_append] at hlength
    show position + (extent + delimiter.length) ≤ _
    omega

/-! ### Steps between regions -/

theorem getElem?_identRun (s : List UInt8) :
    s[(identRun s).length]? = (s.dropWhile isIdentByte).head? := by
  calc s[(identRun s).length]?
      = (identRun s ++ s.dropWhile isIdentByte)[(identRun s).length]? := by
        rw [identRun, List.takeWhile_append_dropWhile]
    _ = (s.dropWhile isIdentByte).head? := by
        rw [List.getElem?_append_right (Nat.le_refl _), Nat.sub_self, List.head?_eq_getElem?]

section

variable {sql : String} {prev : Option UInt8} {position : Nat} {b : UInt8} {behind : List UInt8}
  (h : (Utf8.encode sql).drop position = b :: behind)
include h

theorem step_between :
    Cursor.step sql ⟨position, .between⟩ = stepAt sql position b behind.head? := by
  show stepBetween sql position = _
  rw [stepBetween, head?_ahead h, getElem?_ahead h]
  cases behind <;> rfl

theorem from?_succ : from? (Utf8.encode sql) (position + 1) = some behind :=
  from?_ahead (drop_ahead h 1) (le_ahead h Nat.one_pos (Nat.le_add_left 1 _))

variable (hprev : before? (Utf8.encode sql) position = some prev)
include hprev

theorem delimiterLength?_eq :
    delimiterLength? (Utf8.encode sql) position =
      some ((dollarTag? prev behind).map fun tag => tag.length + 2) := by
  rw [delimiterLength?, hprev, Option.bind_some, dollarTag?, from?_succ h]
  by_cases hident : followsIdent prev = true
  · rw [if_pos hident, if_pos hident]
    rfl
  rw [if_neg hident, if_neg hident, Option.map_some, getElem?_identRun]
  by_cases hdollar : behind.head? = some Byte.dollar
  · rw [if_pos hdollar, if_pos hdollar]
    rfl
  rw [if_neg hdollar, if_neg hdollar]
  split <;> rfl

theorem referenceAt?_eq_none (hmarker : startsMarker prev behind = false) :
    referenceAt? sql position = some none := by
  rw [referenceAt?, hprev, Option.bind_some, from?_succ h, Option.bind_some]
  split
  · rfl
  next hbefore =>
  obtain ⟨hcolon, hident⟩ := not_or.mp hbefore
  refine if_neg fun hstarts => ?_
  have hmarks := startsMarker_iff.mpr ⟨⟨Bool.eq_false_iff.mpr hident, hcolon⟩, hstarts⟩
  rw [hmarker] at hmarks
  cases hmarks

end

section

variable {sql : String} {prev : Option UInt8} {position : Nat}
  (hprev : before? (Utf8.encode sql) position = some prev)
include hprev

theorem referenceAt?_eq_some {name rest : List UInt8}
    (h : (Utf8.encode sql).drop position = Byte.colon :: (name ++ rest))
    (hmark : MayPrecedeMarker prev) (hname : IsName name)
    (hrest : rest.head?.any isIdentByte = false) :
    referenceAt? sql position = some (some
      { name := Utf8.decode name, span := { offset := position, length := name.length + 1 } }) := by
  -- the slice is that of the name, because it starts and ends between characters
  have hslice : Utf8.slice? sql (position + 1) (position + 1 + name.length) =
      some (Utf8.decode name) := by
    have hsplit := (List.take_append_drop position (Utf8.encode sql)).symm
    rw [h] at hsplit
    obtain ⟨before, text, behind, hsql, hbefore, htext, -⟩ := exists_append_of_marker hsplit hname
    have hposition : (Utf8.encode (before ++ ":")).length = position + 1 := by
      have hle : position ≤ (Utf8.encode sql).length :=
        Nat.le_of_succ_le (le_ahead h Nat.one_pos (Nat.le_add_left 1 _))
      rw [Utf8.encode_append, List.length_append, hbefore, List.length_take, Nat.min_eq_left hle]
      rfl
    rw [← htext, Utf8.decode_encode, ← hposition, hsql, ← String.append_assoc]
    exact Utf8.slice?_append _ _ _
  have hstop : position + 1 + name.length - position = name.length + 1 := by omega
  rw [referenceAt?, hprev, Option.bind_some, from?_succ h, Option.bind_some,
    if_neg (not_or.mpr ⟨hmark.2, by rw [hmark.1]; exact Bool.false_ne_true⟩),
    if_pos (hname.startsIdent_append rest), identRun_append hname.2 hrest]
  dsimp only
  rw [hslice, hstop]
  rfl

/-- The step over an opening delimiter and the steps to the end of the region. -/
theorem skips_opening {kind : RegionKind} {what : Unclosed} {opening behind : List UInt8}
    (hopening : Opening prev kind opening) (hwhat : kind.unclosed? = some what)
    (h : (Utf8.encode sql).drop position = opening ++ behind) :
    Skips sql ⟨position, .between⟩ what position
      ((closingExtent kind opening behind).map (· + opening.length)) := by
  have hle : position + opening.length ≤ (Utf8.encode sql).length :=
    le_behind h (List.ne_nil_of_length_pos hopening.length_pos)
  have hstart : position ≤ (Utf8.encode sql).length := Nat.le_of_add_right_le hle
  have hbehind := drop_behind h
  -- the opening is the first step; how the region goes on is settled for each kind by itself
  cases hopening with
  | string =>
    obtain rfl : .stringLiteral = what := Option.some.inj hwhat
    refine (skips_quoted hstart hbehind).later ?_ Nat.one_pos hle
    rw [step_between h]
    exact if_pos rfl
  | quotedIdentifier =>
    obtain rfl : .quotedIdentifier = what := Option.some.inj hwhat
    refine (skips_quoted hstart hbehind).later ?_ Nat.one_pos hle
    rw [step_between h]
    exact (if_neg (by decide)).trans (if_pos rfl)
  | @escapeString e he hident =>
    obtain rfl : .stringLiteral = what := Option.some.inj hwhat
    refine (skips_escaped hstart hbehind).later ?_ Nat.two_pos hle
    have hquotes : e ≠ Byte.quote ∧ e ≠ Byte.doubleQuote := by
      rcases he with rfl | rfl <;> decide
    rw [step_between h, stepAt, if_neg hquotes.1, if_neg hquotes.2, if_pos ⟨he, rfl⟩, hprev,
      Option.map_some, if_neg (by rw [hident]; exact Bool.false_ne_true)]
    rfl
  | lineComment => cases hwhat
  | blockComment =>
    obtain rfl : .blockComment = what := Option.some.inj hwhat
    refine (skips_comment hstart hbehind).later ?_ Nat.two_pos hle
    rw [step_between h, stepAt, if_neg (by decide), if_neg (by decide),
      if_neg (fun h => absurd h.1 (by decide)), if_neg (fun h => absurd h.1 (by decide)),
      if_pos ⟨rfl, rfl⟩]
    rfl
  | @dollarQuoted tag htag hident =>
    obtain rfl : .dollarQuote = what := Option.some.inj hwhat
    have htag? : dollarTag? prev (tag ++ [Byte.dollar] ++ behind) = some tag :=
      dollarTag?_eq_some_iff.mpr ⟨hident, htag, List.prefix_append _ _⟩
    refine skips_delimited h (List.cons_ne_nil _ _) ?_
    rw [step_between h, stepAt, if_neg (by decide), if_neg (by decide),
      if_neg (fun h => absurd h.1 (by decide)), if_neg (fun h => absurd h.1 (by decide)),
      if_neg (fun h => absurd h.1 (by decide)), if_pos rfl, delimiterLength?_eq h hprev,
      List.append_eq, htag?, Option.map_some, Option.bind_some]
    simp [dollarDelimiter]

end

/-! ### Runs -/

section

variable {sql : String} {prev : Option UInt8} {position : Nat}

theorem stepAt_colon (next? : Option UInt8) :
    stepAt sql position Byte.colon next? =
      if next? = some Byte.colon then some (.between (position + 2))
      else (referenceAt? sql position).map fun
        | some reference => .reference reference ⟨reference.span.stop, .between⟩
        | none => .between (position + 1) := by
  rw [stepAt, if_neg (by decide), if_neg (by decide), if_neg (fun h => absurd h.1 (by decide)),
    if_neg (fun h => absurd h.1 (by decide)), if_neg (fun h => absurd h.1 (by decide)),
    if_neg (by decide), if_pos rfl]

variable (hprev : before? (Utf8.encode sql) position = some prev)
include hprev

/-- A byte without a meaning of its own takes one step. -/
theorem step_plain {b : UInt8} {rest : List UInt8}
    (h : (Utf8.encode sql).drop position = b :: rest) (htoken : IsToken prev .plain [b] rest) :
    Cursor.step sql ⟨position, .between⟩ = some (.between (position + 1)) := by
  cases htoken with
  | plain hregion hcast hmarker =>
    rw [step_between h]
    by_cases hcolon : b = Byte.colon
    · subst hcolon
      have hmark : startsMarker prev rest = false := by
        refine Bool.eq_false_iff.mpr fun hmark => ?_
        obtain ⟨hmay, hident⟩ := startsMarker_iff.mp hmark
        exact hmarker ⟨hmay, rest, rfl, hident⟩
      rw [stepAt_colon, if_neg (fun hhead => hcast (pair_prefix_iff.mpr ⟨rfl, hhead⟩)),
        referenceAt?_eq_none h hprev hmark]
      rfl
    obtain ⟨hquote, hdoubleQuote, hescape, hline, hblock, hdollar⟩ := not_startsRegion hregion
    rw [stepAt, if_neg hquote, if_neg hdoubleQuote]
    by_cases he : (b = Byte.upperE ∨ b = Byte.lowerE) ∧ rest.head? = some Byte.quote
    · -- behind an identifier the letter opens no string
      have hident : followsIdent prev = true :=
        Bool.of_not_eq_false fun hident => hescape ⟨he.1, he.2, hident⟩
      rw [if_pos he, hprev, Option.map_some, if_pos hident]
    rw [if_neg he, if_neg hline, if_neg hblock]
    by_cases hb : b = Byte.dollar
    · rw [if_pos hb, delimiterLength?_eq h hprev, hdollar hb]
      rfl
    · rw [if_neg hb, if_neg hcolon]

/-- A token that is no marker is passed without an answer. -/
theorem runs_skip {kind : TokenKind} {text rest : List UInt8}
    {found : List (Except ScanError Reference)} (hkind : kind ≠ .marker)
    (htoken : IsToken prev kind text rest)
    (h : (Utf8.encode sql).drop position = text ++ rest)
    (hfound : Runs sql ⟨position + text.length, .between⟩ found) :
    Runs sql ⟨position, .between⟩ found := by
  have hle : position + text.length ≤ (Utf8.encode sql).length := by
    obtain ⟨b, tail, rfl⟩ := htoken.eq_cons
    exact le_behind h (List.cons_ne_nil b tail)
  cases htoken with
  | @region kind opening tail _ hopening hclosing =>
    rw [List.append_assoc] at h
    have hextent := closingExtent_complete hclosing
    rw [List.length_append, Nat.add_comm opening.length] at hfound
    cases hwhat : kind.unclosed? with
    | some what =>
      have hskips := skips_opening hprev hopening hwhat h
      rw [hextent] at hskips
      exact hskips found hfound
    | none =>
      -- only a line comment cannot stay open
      cases hopening with
      | lineComment =>
        have hlength : lineExtent (tail ++ rest) = tail.length := Option.some.inj hextent
        have hstep : Cursor.step sql ⟨position, .between⟩ =
            some (.between (position + (tail.length + 2))) := by
          rw [step_between h, stepAt, if_neg (by decide), if_neg (by decide),
            if_neg (fun h => absurd h.1 (by decide)), if_pos ⟨rfl, rfl⟩,
            from?_ahead h (Nat.le_of_add_right_le hle), ← hlength]
          rfl
        refine .next hstep (Nat.lt_add_of_pos_right (Nat.succ_pos _)) ?_ hfound
        rw [List.length_append, Nat.add_comm (List.length _)] at hle
        exact hle
      | _ => cases hwhat
  | cast =>
    have hstep : Cursor.step sql ⟨position, .between⟩ = some (.between (position + 2)) := by
      rw [step_between h, stepAt_colon]
      exact if_pos rfl
    exact .next hstep (Nat.lt_add_of_pos_right Nat.two_pos) hle hfound
  | marker => exact absurd rfl hkind
  | plain hregion hcast hmarker =>
    have hstep := step_plain hprev h (.plain hregion hcast hmarker)
    exact .next hstep (Nat.lt_add_of_pos_right Nat.one_pos) hle hfound

/-- A marker is passed in one step, which gives the reference. -/
theorem runs_marker {text rest : List UInt8} {found : List (Except ScanError Reference)}
    (htoken : IsToken prev .marker text rest)
    (h : (Utf8.encode sql).drop position = text ++ rest)
    (hfound : Runs sql ⟨position + text.length, .between⟩ found) :
    Runs sql ⟨position, .between⟩ (.ok
      { name := Token.name { kind := .marker, text }
        span := { offset := position, length := text.length } } :: found) := by
  cases htoken with
  | @marker name _ hmark hname hrest =>
    have hstart := hname.startsIdent_append rest
    -- a name starts with no colon, so that the marker is no cast
    have hhead : (name ++ rest).head? ≠ some Byte.colon := by
      intro hhead
      rw [startsIdent, hhead] at hstart
      exact absurd hstart (by decide)
    refine .reference ?_ (Nat.lt_add_of_pos_right (Nat.succ_pos _))
      (le_behind h (List.cons_ne_nil _ _)) hfound
    rw [step_between h]
    exact (stepAt_colon _).trans ((if_neg hhead).trans
      (by rw [referenceAt?_eq_some hprev h hmark hname hrest]; rfl))

end

/-- The run from a position between regions gives the references and the error of the text
there. -/
theorem runs_lex {sql : String} {position : Nat} {prev : Option UInt8} {s : List UInt8}
    (hprev : before? (Utf8.encode sql) position = some prev)
    (h : (Utf8.encode sql).drop position = s) :
    Runs sql ⟨position, .between⟩ (answers (referencesFrom position (lex prev s).tokens)
      (errorFrom position (lex prev s))) := by
  induction prev, s using lexInduction generalizing position with
  | nil prev =>
    rw [lex_nil]
    refine .done ?_
    show stepBetween sql position = _
    rw [stepBetween, head?_ahead h]
    rfl
  | token prev kind text rest htoken ih =>
    -- the token is behind the cursor now, and its last byte is the one before
    obtain ⟨b, tail, htext⟩ := htoken.eq_cons
    have hne : text ≠ [] := htext ▸ List.cons_ne_nil b tail
    have hfound := ih (before?_behind h hne) (drop_behind h)
    rw [lex_append htoken, errorFrom_cons, Lexed.cons]
    by_cases hkind : kind = .marker
    · subst hkind
      rw [referencesFrom_marker position rfl]
      exact runs_marker hprev htoken h hfound
    · rw [referencesFrom_skip position hkind]
      exact runs_skip hprev hkind htoken h hfound
  | unclosed prev what s hopen =>
    rw [lex_of_isOpen hopen]
    obtain ⟨kind, opening, behind, rfl, hopening, hwhat, hnone⟩ := hopen
    have hskips := skips_opening hprev hopening hwhat h
    rw [closingExtent_eq_none_iff.mpr hnone] at hskips
    have hlength := congrArg List.length h
    rw [List.length_drop] at hlength
    rw [errorFrom, Option.map_some]
    dsimp only
    rw [← hlength]
    exact hskips

/-- **Scanning and compiling stay within the query.**  Scanning, read byte by byte, comes to an
end: no look at a byte or at a stretch of bytes is out of range, every slice is cut at boundaries
of characters, and every step goes on and not beyond the end.  The references it finds are placed
as markers are.  An error starts at a boundary before the end.  Compiling cuts out stretches at
boundaries as well and never gives a number as large as a limit beyond the length of the query. -/
theorem scan_stays_within (sql : String) :
    ∃ (references : List Reference) (error? : Option ScanError),
      Yields sql references error? ∧
      Runs sql .start (answers references error?) ∧
      Placed sql references ∧
      (∀ error ∈ error?, Utf8.IsBoundary sql error.span.offset ∧
        error.span.offset < (Utf8.encode sql).length) ∧
      ∀ (compiler : Compiler) (limit : Nat), (Utf8.encode sql).length + 1 < limit →
        compiler.copy limit sql 0 "" [] (answers references error?) =
          some (compiler.compile sql) := by
  refine ⟨(lexQuery sql).references, (lexQuery sql).error?, yields_lexQuery sql, ?_,
    placed_references sql, fun error herror => ?_,
    fun compiler limit hlimit => copy_answers compiler hlimit⟩
  · rw [error?_eq_errorFrom]
    exact runs_lex rfl rfl
  · obtain ⟨before, behind, -, hsql, hspan, hopen, -⟩ :=
      exists_cut_of_error (scan_eq_error_iff.mpr herror)
    obtain ⟨b, tail, hbehind, -⟩ := hopen.eq_cons
    rw [hspan]
    refine ⟨Utf8.isBoundary_iff.mpr ⟨before, behind, hsql, rfl⟩, ?_⟩
    rw [hsql, Utf8.encode_append, List.length_append, hbehind]
    exact Nat.lt_add_of_pos_right (Nat.succ_pos _)

/-- The backslash takes the first byte of a longer character, and the cursor goes on within it. -/
theorem scan_stays_within_character :
    ∃ (references : List Reference) (error? : Option ScanError),
      Yields "E'\\é' = :a" references error? ∧
      Runs "E'\\é' = :a" .start (answers references error?) ∧
      Placed "E'\\é' = :a" references ∧
      Compiler.standard.copy (2 ^ 64) "E'\\é' = :a" 0 "" [] (answers references error?) =
        some (.ok { sql := "E'\\é' = $1", parameters := [{ name := "a", index := 1 }] }) := by
  obtain ⟨references, error?, hyields, hruns, hplaced, -, hcopy⟩ :=
    scan_stays_within "E'\\é' = :a"
  refine ⟨references, error?, hyields, hruns, hplaced, ?_⟩
  rw [hcopy .standard (2 ^ 64) (by decide)]
  cbv

end NamedSql.Sql
